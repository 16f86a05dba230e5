import ServiceCompiler.Proofs.Text.Phrase

/-! # Replaced phrases

Replacing goes through a text from the left: it puts the replacement for the pattern where this
stands, and goes on behind it. Main statement: a pattern is gone for good unless it can arise again
at an edge of the replacement. -/

namespace ServiceCompiler.Text

variable {pattern replacement : List Char}

theorem replaceChars_of_length_le (hPattern : pattern ≠ []) {steps : Nat} {cs : List Char}
    (h : cs.length ≤ steps) :
    replaceChars pattern replacement steps cs = replaceChars pattern replacement cs.length cs := by
  induction steps using Nat.strongRecOn generalizing cs with
  | ind steps ih =>
    cases cs with
    | nil => cases steps <;> rfl
    | cons c rest =>
      obtain ⟨steps, rfl⟩ := Nat.exists_eq_add_one_of_ne_zero (Nat.ne_of_gt (Nat.lt_of_lt_of_le
        (Nat.succ_pos _) h))
      have hPos := List.length_pos_iff.mpr hPattern
      have hDrop : ((c :: rest).drop pattern.length).length ≤ rest.length := by
        rw [List.length_drop, List.length_cons]
        omega
      have hRest : rest.length ≤ steps := Nat.le_of_succ_le_succ h
      rw [List.length_cons, replaceChars, replaceChars, ih steps (Nat.lt_succ_self _) hRest,
        ih steps (Nat.lt_succ_self _) (hDrop.trans hRest),
        ih rest.length (Nat.lt_of_le_of_lt hRest (Nat.lt_succ_self _)) hDrop]

/-- The text with the replacement for every occurrence of the pattern. -/
def replaced (pattern replacement cs : List Char) : List Char :=
  replaceChars pattern replacement cs.length cs

theorem toList_replaceAll (pattern replacement s : String) :
    (replaceAll pattern replacement s).toList =
      replaced pattern.toList replacement.toList s.toList := by
  rw [replaceAll, String.toList_ofList, replaced, String.length_toList]

theorem replaced_append_self (hPattern : pattern ≠ []) (rest : List Char) :
    replaced pattern replacement (pattern ++ rest) =
      replacement ++ replaced pattern replacement rest := by
  obtain ⟨c, cs, rfl⟩ := List.exists_cons_of_ne_nil hPattern
  have hHere : (c :: cs).isPrefixOf (c :: (cs ++ rest)) = true :=
    List.isPrefixOf_iff_prefix.mpr (List.prefix_append (c :: cs) rest)
  have hDrop : (c :: (cs ++ rest)).drop (c :: cs).length = rest := List.drop_left
  rw [replaced, List.cons_append, List.length_cons, replaceChars, if_pos hHere, hDrop, replaced,
    replaceChars_of_length_le hPattern (by simp)]

theorem replaced_cons {c : Char} {rest : List Char} (h : ¬ pattern <+: c :: rest) :
    replaced pattern replacement (c :: rest) = c :: replaced pattern replacement rest := by
  rw [replaced, List.length_cons, replaceChars, if_neg (mt List.isPrefixOf_iff_prefix.mp h), replaced]

/-- The texts as replacing goes through them. -/
theorem replaced_induction (hPattern : pattern ≠ []) {motive : List Char → Prop} (nil : motive [])
    (here : ∀ rest, motive rest → motive (pattern ++ rest))
    (further : ∀ c rest, ¬ pattern <+: c :: rest → motive rest → motive (c :: rest))
    (cs : List Char) : motive cs := by
  induction cs using (measure List.length).wf.induction with
  | h cs ih =>
    by_cases hHere : pattern <+: cs
    · obtain ⟨rest, rfl⟩ := hHere
      refine here rest (ih rest ?_)
      change rest.length < (pattern ++ rest).length
      rw [List.length_append]
      exact Nat.lt_add_of_pos_left (List.length_pos_iff.mpr hPattern)
    · cases cs with
      | nil => exact nil
      | cons c rest => exact further c rest hHere (ih rest (Nat.lt_succ_self _))

theorem replaced_eq_self {cs : List Char} (h : ¬ pattern <:+: cs) :
    replaced pattern replacement cs = cs := by
  induction cs with
  | nil => rfl
  | cons c rest ih =>
    rw [List.infix_cons_iff, not_or] at h
    rw [replaced_cons h.1, ih h.2]

/-- A beginning of two texts is one of the first, or goes on from the first into the second. -/
theorem prefix_append_cases {a b u : List Char} (hPrefix : u <+: a ++ b) :
    u <+: a ∨ ∃ back, back ≠ [] ∧ u = a ++ back ∧ back <+: b := by
  rcases List.prefix_or_prefix_of_prefix hPrefix (List.prefix_append a b) with h | ⟨back, rfl⟩
  · exact .inl h
  · rcases eq_or_ne back [] with rfl | hBack
    · exact .inl (by rw [List.append_nil])
    · exact .inr ⟨back, hBack, rfl, (List.prefix_append_right_inj a).mp hPrefix⟩

/-- Two texts are replaced each for itself if the pattern does not stand across their border. -/
theorem replaced_append (hPattern : pattern ≠ []) {as bs : List Char}
    (hCut : ∀ u v, pattern = u ++ v → u ≠ [] → v ≠ [] → u <:+ as → ¬ v <+: bs) :
    replaced pattern replacement (as ++ bs) =
      replaced pattern replacement as ++ replaced pattern replacement bs := by
  induction as using replaced_induction hPattern with
  | nil => rfl
  | here rest ih =>
    rw [List.append_assoc, replaced_append_self hPattern, replaced_append_self hPattern, ih,
      List.append_assoc]
    exact fun u v hSplit hu hv hSuffix => hCut u v hSplit hu hv (hSuffix.trans (List.suffix_append _ _))
  | further c rest hNot ih =>
    have hLonger : ¬ pattern <+: c :: (rest ++ bs) := by
      intro hPrefix
      rcases prefix_append_cases (a := c :: rest) hPrefix with hHere | ⟨v, hv, hSplit, hBehind⟩
      · exact hNot hHere
      · exact hCut (c :: rest) v hSplit (List.cons_ne_nil _ _) hv List.suffix_rfl hBehind
    rw [List.cons_append, replaced_cons hLonger, replaced_cons hNot, ih, List.cons_append]
    exact fun u v hSplit hu hv hSuffix =>
      hCut u v hSplit hu hv (hSuffix.trans (List.suffix_cons c rest))

/-- The last character stays, or it is the one of the replacement. -/
theorem getLast?_replaced (hPattern : pattern ≠ []) (hReplacement : replacement ≠ [])
    (cs : List Char) :
    (replaced pattern replacement cs).getLast? = cs.getLast? ∨
      (replaced pattern replacement cs).getLast? = replacement.getLast? := by
  induction cs using replaced_induction hPattern with
  | nil => exact .inl rfl
  | here rest ih =>
    rw [replaced_append_self hPattern, List.getLast?_append, List.getLast?_append]
    cases hLast : (replaced pattern replacement rest).getLast? with
    | none => exact .inr rfl
    | some x =>
      rw [hLast] at ih
      rcases ih with hSame | hOther
      · exact .inl (by rw [← hSame]; rfl)
      · exact .inr hOther
  | further c rest hNot ih =>
    rw [replaced_cons hNot, List.getLast?_cons, List.getLast?_cons]
    rcases ih with hSame | hOther
    · exact .inl (by rw [hSame])
    · obtain ⟨x, hx⟩ := Option.ne_none_iff_exists'.mp (mt List.getLast?_eq_none_iff.mp hReplacement)
      exact .inr (by rw [hOther, hx]; rfl)

namespace Phrase

variable {p : Phrase}

theorem chars_ne_nil (p : Phrase) : p.chars ≠ [] :=
  fun hNil => p.proper (hNil ▸ List.nil_infix)

/-- An end of the phrase at the beginning of a replaced text stood there before. -/
theorem prefix_of_prefix_replaced (hBlocks : ∀ v ≠ [], v <:+ p.chars.tail →
      ¬ v <+: replacement ∧ ¬ replacement <+: v) {cs : List Char} {v : List Char}
    (hEnd : v <:+ p.chars.tail) (hPrefix : v <+: replaced p.chars replacement cs) : v <+: cs := by
  induction cs using replaced_induction p.chars_ne_nil generalizing v with
  | nil => exact hPrefix
  | here rest ih =>
    rw [replaced_append_self p.chars_ne_nil] at hPrefix
    rcases eq_or_ne v [] with rfl | hv
    · exact List.nil_prefix
    · obtain ⟨hShort, hLong⟩ := hBlocks v hv hEnd
      rcases prefix_append_cases hPrefix with h | ⟨back, -, rfl, -⟩
      · exact absurd h hShort
      · exact absurd (List.prefix_append _ _) hLong
  | further c rest hNot ih =>
    rw [replaced_cons hNot] at hPrefix
    rcases List.prefix_cons_iff.mp hPrefix with rfl | ⟨w, rfl, hw⟩
    · exact List.nil_prefix
    · rw [List.cons_prefix_cons]
      exact ⟨rfl, ih ((List.suffix_cons c w).trans hEnd) hw⟩

/-- A phrase does not stand in a text in which it was replaced. -/
theorem free_replaced (hCloser : p.closer = none) (hFree : p.Free replacement)
    (hEnded : p.Ended replacement) (hBlocks : p.Blocks replacement) (cs : List Char) :
    p.Free (replaced p.chars replacement cs) := by
  have hApart : ∀ v ≠ [], v <:+ p.chars.tail → ¬ v <+: replacement ∧ ¬ replacement <+: v := by
    intro v hv hEnd
    obtain ⟨s, hs, rfl⟩ := (suffix_tail_iff hv).mp hEnd
    refine (hBlocks.2 s hs).resolve_left fun hNone => hv ?_
    rw [hCloser] at hNone
    exact List.prefix_nil.mp hNone
  induction cs using replaced_induction p.chars_ne_nil with
  | nil => exact fun h => p.chars_ne_nil (List.infix_nil.mp h)
  | here rest ih =>
    rw [replaced_append_self p.chars_ne_nil]
    exact free_append_of_ended hFree hEnded ih
  | further c rest hNot ih =>
    rw [replaced_cons hNot]
    intro hInfix
    rcases List.infix_cons_iff.mp hInfix with hPrefix | hLater
    · rcases List.prefix_cons_iff.mp hPrefix with hNil | ⟨w, hChars, hw⟩
      · exact p.chars_ne_nil hNil
      · have hTail : w <:+ p.chars.tail := by
          rw [hChars, List.tail_cons]
        rw [hChars] at hNot
        exact hNot (List.cons_prefix_cons.mpr ⟨rfl, prefix_of_prefix_replaced hApart hTail hw⟩)
    · exact ih hLater

end Phrase

end ServiceCompiler.Text
