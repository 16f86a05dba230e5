import ServiceCompiler.Proofs.Text.Fragment
import ServiceCompiler.Text.Words

/-! # Words in lower case

Spellings join the words of a text in lower case. No word is empty, and none has a character that
separates words, ends a line or means something to a path or a quoted text. So the words of a text
can be read back from its spelling. -/

namespace ServiceCompiler.Text

/-! ## Joined pieces -/

theorem mem_joinChars {sep : List Char} {pieces : List (List Char)} {c : Char}
    (h : c ∈ joinChars sep pieces) : c ∈ sep ∨ ∃ piece ∈ pieces, c ∈ piece := by
  induction pieces with
  | nil => cases h
  | cons piece pieces ih =>
    cases pieces with
    | nil => exact .inr ⟨piece, List.mem_cons_self, h⟩
    | cons next more =>
      rw [joinChars, List.mem_append, List.mem_append] at h
      · rcases h with (h | h) | h
        · exact .inr ⟨piece, List.mem_cons_self, h⟩
        · exact .inl h
        · rcases ih h with hSep | ⟨other, hOther, hc⟩
          · exact .inl hSep
          · exact .inr ⟨other, List.mem_cons_of_mem _ hOther, hc⟩
      · simp

theorem joinChars_cons (sep piece : List Char) (pieces : List (List Char)) :
    joinChars sep (piece :: pieces) = piece ++ pieces.flatMap (sep ++ ·) := by
  induction pieces generalizing piece with
  | nil => simp [joinChars]
  | cons next more ih => simp [joinChars, ih]

theorem join_cons_cons (sep first next : String) (more : List String) :
    join sep (first :: next :: more) = first ++ sep ++ join sep (next :: more) := by
  rw [← String.toList_inj]
  simp [join, joinChars]

section Pieces

variable {sep : Char}

theorem splitChars_append (as bs : List Char) :
    splitChars sep (as ++ sep :: bs) = splitChars sep as ++ splitChars sep bs := by
  induction as with
  | nil => simp [splitChars]
  | cons a as ih =>
    rw [List.cons_append, splitChars, splitChars, ih]
    split
    · rfl
    · cases hPieces : splitChars sep as with
      | nil => exact absurd hPieces (splitChars_ne_nil sep as)
      | cons piece pieces => rfl

theorem splitChars_of_not_mem {cs : List Char} (h : sep ∉ cs) : splitChars sep cs = [cs] := by
  induction cs with
  | nil => rfl
  | cons c cs ih =>
    have hFirst : c ≠ sep := (List.ne_of_not_mem_cons h).symm
    rw [splitChars, if_neg hFirst, ih (List.not_mem_of_not_mem_cons h)]

theorem splitChars_joinChars {pieces : List (List Char)} (hPieces : pieces ≠ [])
    (h : ∀ piece ∈ pieces, sep ∉ piece) : splitChars sep (joinChars [sep] pieces) = pieces := by
  induction pieces with
  | nil => exact absurd rfl hPieces
  | cons piece pieces ih =>
    obtain ⟨hFirst, hRest⟩ := List.forall_mem_cons.mp h
    cases pieces with
    | nil => exact splitChars_of_not_mem hFirst
    | cons next more =>
      have hJoin : joinChars [sep] (piece :: next :: more) =
          piece ++ sep :: joinChars [sep] (next :: more) := by
        simp [joinChars]
      rw [hJoin, splitChars_append, splitChars_of_not_mem hFirst, ih (List.cons_ne_nil _ _) hRest]
      rfl

theorem not_mem_of_mem_splitChars {cs piece : List Char} (h : piece ∈ splitChars sep cs) :
    sep ∉ piece := by
  induction cs generalizing piece with
  | nil =>
    rw [splitChars, List.mem_singleton] at h
    rw [h]
    exact List.not_mem_nil
  | cons c cs ih =>
    rw [splitChars] at h
    split at h
    · rcases List.mem_cons.mp h with rfl | hLater
      · exact List.not_mem_nil
      · exact ih hLater
    · rename_i hOther
      cases hPieces : splitChars sep cs with
      | nil => exact absurd hPieces (splitChars_ne_nil sep cs)
      | cons first more =>
        rw [hPieces] at h ih
        rcases List.mem_cons.mp h with rfl | hLater
        · rw [List.mem_cons, not_or]
          exact ⟨Ne.symm hOther, ih List.mem_cons_self⟩
        · exact ih (List.mem_cons_of_mem _ hLater)

theorem mem_splitAt {s t : String} : t ∈ splitAt sep s ↔ t.toList ∈ splitChars sep s.toList := by
  rw [splitAt, List.mem_map]
  constructor
  · rintro ⟨piece, hPiece, rfl⟩
    rwa [String.toList_ofList]
  · intro hPiece
    exact ⟨t.toList, hPiece, String.ofList_toList⟩

theorem joinChars_eq_nil {pieces : List (List Char)} (h : ∀ piece ∈ pieces, piece ≠ []) :
    joinChars [sep] pieces = [] ↔ pieces = [] := by
  cases pieces with
  | nil => simp [joinChars]
  | cons piece pieces =>
    have hFirst := h piece List.mem_cons_self
    cases pieces <;> simp [joinChars, hFirst]

/-- Pieces without the separator, none of them empty, can be read back. -/
theorem joinChars_inj {as bs : List (List Char)} (hAs : ∀ a ∈ as, a ≠ [] ∧ sep ∉ a)
    (hBs : ∀ b ∈ bs, b ≠ [] ∧ sep ∉ b) : joinChars [sep] as = joinChars [sep] bs ↔ as = bs := by
  refine ⟨fun hSame => ?_, fun hSame => hSame ▸ rfl⟩
  by_cases hNil : as = []
  · subst hNil
    exact ((joinChars_eq_nil fun b hb => (hBs b hb).1).mp hSame.symm).symm
  · have hOther : bs ≠ [] := by
      rintro rfl
      exact hNil ((joinChars_eq_nil fun a ha => (hAs a ha).1).mp hSame)
    rw [← splitChars_joinChars hNil fun a ha => (hAs a ha).2, hSame,
      splitChars_joinChars hOther fun b hb => (hBs b hb).2]

end Pieces

/-! ## Words -/

theorem mem_alphanumericRuns {cs run : List Char} (hRun : run ∈ alphanumericRuns cs) {c : Char}
    (hc : c ∈ run) : c ∈ cs ∧ isAlphanumeric c := by
  induction cs generalizing run with
  | nil =>
    cases List.mem_singleton.mp hRun
    cases hc
  | cons a rest ih =>
    have hLater {run : List Char} (hRun : run ∈ alphanumericRuns rest) (hc : c ∈ run) :
        c ∈ a :: rest ∧ isAlphanumeric c :=
      (ih hRun hc).imp_left (List.mem_cons_of_mem a)
    rw [alphanumericRuns] at hRun
    split at hRun
    · rename_i hFirst
      cases hRuns : alphanumericRuns rest with
      | nil =>
        rw [hRuns] at hRun
        cases List.mem_singleton.mp hRun
        cases List.mem_singleton.mp hc
        exact ⟨List.mem_cons_self, hFirst⟩
      | cons next runs =>
        rw [hRuns] at hRun hLater
        rcases List.mem_cons.mp hRun with rfl | hRun
        · rcases List.mem_cons.mp hc with rfl | hc
          · exact ⟨List.mem_cons_self, hFirst⟩
          · exact hLater List.mem_cons_self hc
        · exact hLater (List.mem_cons_of_mem _ hRun) hc
    · rcases List.mem_cons.mp hRun with rfl | hRun
      · cases hc
      · exact hLater hRun hc

/-- A word is cut off behind a letter, or where capitals have been read already. -/
theorem mem_cutWords {state : WordCase} {word cs w : List Char} (hWord : state = .upper → word ≠ [])
    (hw : w ∈ cutWords state word cs) : w ≠ [] ∧ w ⊆ word ++ cs := by
  fun_induction cutWords state word cs with
  | case1 => cases hw
  | case2 state word c =>
    cases List.mem_singleton.mp hw
    refine ⟨by simp, ?_⟩
    intro d hd
    simpa [or_comm] using hd
  | case3 state word c next rest hCut ih =>
    rcases List.mem_cons.mp hw with rfl | hw
    · refine ⟨by simp, ?_⟩
      intro d hd
      have hd : d = c ∨ d ∈ word := by simpa [or_comm] using hd
      rcases hd with rfl | hd <;> simp [*]
    · obtain ⟨hFull, hSubset⟩ := ih (by simp) hw
      refine ⟨hFull, fun d hd => ?_⟩
      have hd := hSubset hd
      simp only [List.nil_append, List.mem_cons] at hd
      simp [hd]
  | case4 state word c next rest hStay hCut ih =>
    -- the word is cut before this character, and an upper case run is not empty there
    have hUpper : state = .upper := by
      simp only [Bool.and_eq_true, decide_eq_true_eq] at hCut
      exact hCut.1.1
    rcases List.mem_cons.mp hw with rfl | hw
    · refine ⟨by simpa using hWord hUpper, ?_⟩
      intro d hd
      exact List.mem_append_left _ (List.mem_reverse.mp hd)
    · obtain ⟨hFull, hSubset⟩ := ih (by simp) hw
      refine ⟨hFull, fun d hd => ?_⟩
      exact List.mem_append_right _ (by simpa using hSubset hd)
  | case5 state word c next rest hStay hStay' ih =>
    obtain ⟨hFull, hSubset⟩ := ih (by simp) hw
    refine ⟨hFull, fun d hd => ?_⟩
    have hd := hSubset hd
    simp only [List.mem_append, List.mem_cons] at hd ⊢
    rcases hd with (hd | hd) | hd <;> simp [hd]

theorem mem_words {s : String} {w : List Char} (hw : w ∈ words s) :
    w ≠ [] ∧ ∀ c ∈ w, c ∈ s.toList ∧ isAlphanumeric c := by
  obtain ⟨run, hRun, hw⟩ := List.mem_flatMap.mp hw
  obtain ⟨hFull, hSubset⟩ := mem_cutWords (by simp) hw
  refine ⟨hFull, fun c hc => ?_⟩
  exact mem_alphanumericRuns hRun (by simpa using hSubset hc)

/-! ## Characters of words in lower case -/

/-- The characters beyond ASCII that end a line. -/
def wideLineBreaks : List Nat := [0x85, 0x2028, 0x2029]

/-- What words in lower case are written in: of ASCII the letters and digits alone. -/
def InWord (c : Char) : Prop := c.isAlphanum ∨ 128 ≤ c.toNat ∧ c.toNat ∉ wideLineBreaks

/-- Code points that are characters beyond ASCII and end no line, from `first` to `last`. -/
def wideRange (first last : Int) : Bool :=
  128 ≤ first && (last < 0xd800 || 0xe000 ≤ first && last < 0x110000) &&
    wideLineBreaks.all fun n => n < first || last < n

theorem inWord_of_wideRange {first last : Int} (h : wideRange first last) {n : Nat}
    (hFirst : first ≤ n) (hLast : n ≤ last) : InWord (Char.ofNat n) := by
  simp only [wideRange, wideLineBreaks, List.all_cons, List.all_nil, Bool.and_true,
    Bool.and_eq_true, Bool.or_eq_true, decide_eq_true_eq] at h
  have hValid : n.isValidChar := by
    unfold Nat.isValidChar
    omega
  have hNat : (Char.ofNat n).toNat = n := by
    rw [Char.ofNat, dif_pos hValid]
    rfl
  refine .inr ?_
  rw [hNat]
  simp only [wideLineBreaks, List.mem_cons, List.not_mem_nil, or_false, not_or]
  omega

theorem inWord_of_isAlphanumeric {c : Char} (hc : isAlphanumeric c) : InWord c := by
  by_cases hAscii : c.toNat < 0x80
  · rw [isAlphanumeric, if_pos hAscii] at hc
    exact .inl hc
  · refine .inr ⟨Nat.le_of_not_lt hAscii, fun hBreak => ?_⟩
    have hOutside : ∀ n ∈ wideLineBreaks, inRanges alphanumericRanges n = false := by
      decide +kernel
    rw [isAlphanumeric, if_neg hAscii, hOutside _ hBreak] at hc
    cases hc

/-- The tables of lower case lead to characters beyond ASCII, or to a letter. -/
theorem lowering_tables :
    (∀ entry ∈ loweringExpansions, entry.2 ≠ [] ∧ ∀ n ∈ entry.2, (Char.ofNat n).isAlphanum ∨
      wideRange n n) ∧
    ∀ run ∈ loweringRuns, wideRange (run.1 + run.2.2.2) (run.2.1 + run.2.2.2) ∨
      run.1 = run.2.1 ∧ (Char.ofNat (run.1 + run.2.2.2).toNat).isAlphanum := by
  decide +kernel

theorem inWord_toLower {c d : Char} (hc : isAlphanumeric c) (hd : d ∈ toLower c) : InWord d := by
  unfold toLower at hd
  split at hd
  · rename_i hAscii
    rw [isAlphanumeric, if_pos hAscii] at hc
    cases List.mem_singleton.mp hd
    exact .inl (forall_ascii (P := fun c => c.isAlphanum → c.toLower.isAlphanum)
      (by decide +kernel) hAscii hc)
  · unfold counterpart at hd
    split at hd
    · rename_i _ ns hFound
      obtain ⟨n, hn, rfl⟩ := List.mem_map.mp hd
      rcases (lowering_tables.1 _ (List.mem_of_find?_eq_some hFound)).2 n hn with hPlain | hWide
      · exact .inl hPlain
      · exact inWord_of_wideRange hWide (Int.le_refl _) (Int.le_refl _)
    · split at hd
      · rename_i first last step shift hFound
        cases List.mem_singleton.mp hd
        have hTest := List.find?_some hFound
        simp only [Bool.and_eq_true, decide_eq_true_eq] at hTest
        obtain ⟨⟨hFirst, hLast⟩, -⟩ := hTest
        rcases lowering_tables.2 _ (List.mem_of_find?_eq_some hFound) with hWide | ⟨hOne, hPlain⟩
        · have hPositive : (0 : Int) ≤ first + shift := by
            simp only [wideRange, Bool.and_eq_true, decide_eq_true_eq] at hWide
            omega
          refine inWord_of_wideRange hWide ?_ ?_ <;> dsimp only <;> omega
        · -- The Kelvin sign, a run of its own, comes down to `k`.
          dsimp only at hOne hPlain
          obtain rfl : first = c.toNat := by omega
          exact .inl hPlain
      · cases List.mem_singleton.mp hd
        exact inWord_of_isAlphanumeric hc

theorem toLower_ne_nil (c : Char) : toLower c ≠ [] := by
  unfold toLower
  split
  · simp
  · unfold counterpart
    split
    · rename_i hFound
      simpa using (lowering_tables.1 _ (List.mem_of_find?_eq_some hFound)).1
    · split <;> simp

theorem lowerWord_ne_nil {w : List Char} (hw : w ≠ []) : lowerWord w ≠ [] := by
  unfold lowerWord
  split
  · exact absurd rfl hw
  · split
    · simp
    · exact toLower_ne_nil _
  · simp [toLower_ne_nil]

theorem mem_lowerWord {w : List Char} {d : Char} (hd : d ∈ lowerWord w) :
    d = 'ς' ∧ 'Σ' ∈ w ∨ ∃ c ∈ w, d ∈ toLower c := by
  fun_induction lowerWord w with
  | case1 => cases hd
  | case2 => exact .inl ⟨List.mem_singleton.mp hd, List.mem_cons_self⟩
  | case3 c => exact .inr ⟨c, List.mem_cons_self, hd⟩
  | case4 c rest _ ih =>
    rcases List.mem_append.mp hd with hd | hd
    · exact .inr ⟨c, List.mem_cons_self, hd⟩
    · rcases ih hd with ⟨hSigma, hMem⟩ | ⟨a, ha, hd⟩
      · exact .inl ⟨hSigma, List.mem_cons_of_mem _ hMem⟩
      · exact .inr ⟨a, List.mem_cons_of_mem _ ha, hd⟩

/-! ## Spellings -/

def lowerWords (s : String) : List (List Char) := (words s).map lowerWord

theorem mem_lowerWords {s : String} {w : List Char} (hw : w ∈ lowerWords s) :
    w ≠ [] ∧ ∀ c ∈ w, InWord c := by
  obtain ⟨v, hv, rfl⟩ := List.mem_map.mp hw
  obtain ⟨hFull, hChars⟩ := mem_words hv
  refine ⟨lowerWord_ne_nil hFull, fun d hd => ?_⟩
  rcases mem_lowerWord hd with ⟨rfl, -⟩ | ⟨c, hc, hd⟩
  · exact .inr (by decide)
  · exact inWord_toLower (hChars c hc).2 hd

theorem InWord.ne {c d : Char} (hc : InWord c) (hAscii : d.toNat < 128)
    (hOther : d.isAlphanum = false) : c ≠ d := by
  rintro rfl
  rcases hc with hPlain | ⟨hWide, -⟩
  · rw [hPlain] at hOther
    cases hOther
  · omega

theorem unmarked_lowerWords {s : String} : ∀ w ∈ lowerWords s, w ≠ [] ∧ '_' ∉ w := by
  intro w hw
  obtain ⟨hFull, hChars⟩ := mem_lowerWords hw
  exact ⟨hFull, fun hMark => (hChars '_' hMark).ne (by decide) (by decide) rfl⟩

theorem snakeCase_inj {s t : String} : snakeCase s = snakeCase t ↔ lowerWords s = lowerWords t := by
  rw [snakeCase, snakeCase, String.ofList_inj]
  exact joinChars_inj unmarked_lowerWords unmarked_lowerWords

theorem snakeCase_eq_word {s word : String} (hWord : word.toList ≠ [] ∧ '_' ∉ word.toList) :
    snakeCase s = word ↔ lowerWords s = [word.toList] := by
  have hOne : word.toList = joinChars ['_'] [word.toList] := rfl
  rw [← String.toList_inj, snakeCase, String.toList_ofList, hOne]
  exact joinChars_inj unmarked_lowerWords (by simpa using hWord)

/-- The spelling of an ASCII text is written in lower-case letters, digits and `_`. -/
theorem isSnake_snakeCase {s : String} (h : ∀ c ∈ s.toList, c.toNat < 128) {d : Char}
    (hd : d ∈ (snakeCase s).toList) : isSnake d := by
  rw [snakeCase, String.toList_ofList] at hd
  rcases mem_joinChars hd with hSep | ⟨w, hw, hd⟩
  · cases List.mem_singleton.mp hSep
    rfl
  · obtain ⟨v, hv, rfl⟩ := List.mem_map.mp hw
    have hChars := (mem_words hv).2
    rcases mem_lowerWord hd with ⟨-, hSigma⟩ | ⟨c, hc, hd⟩
    · exact absurd (h 'Σ' (hChars 'Σ' hSigma).1) (by decide)
    · obtain ⟨hMem, hAlphanumeric⟩ := hChars c hc
      have hAscii : c.toNat < 0x80 := h c hMem
      rw [isAlphanumeric, if_pos hAscii] at hAlphanumeric
      rw [toLower, if_pos hAscii] at hd
      cases List.mem_singleton.mp hd
      exact (isSnake_toLower hAlphanumeric).1

theorem mem_snakeCase {s : String} {c : Char} (hc : c ∈ (snakeCase s).toList) :
    InWord c ∨ c = '_' := by
  rw [snakeCase, String.toList_ofList] at hc
  rcases mem_joinChars hc with hSep | ⟨w, hw, hc⟩
  · exact .inr (List.mem_singleton.mp hSep)
  · exact .inl ((mem_lowerWords hw).2 c hc)

theorem mem_kebabCase {s : String} {c : Char} (hc : c ∈ (kebabCase s).toList) :
    InWord c ∨ c = '-' := by
  rw [kebabCase, String.toList_ofList] at hc
  rcases mem_joinChars hc with hSep | ⟨w, hw, hc⟩
  · exact .inr (List.mem_singleton.mp hSep)
  · exact .inl ((mem_lowerWords hw).2 c hc)

end ServiceCompiler.Text
