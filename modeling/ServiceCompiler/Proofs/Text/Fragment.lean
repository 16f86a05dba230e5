import Mathlib.Data.List.TakeWhile
import ServiceCompiler.Text.Identifier

/-! # Identifier fragments

The characters of the fragments that texts are turned into, and how such a fragment starts. -/

namespace ServiceCompiler.Text

/-! ## ASCII characters -/

/-- What holds of the 128 characters of ASCII one by one. -/
theorem forall_ascii {P : Char → Prop} (h : ∀ n < 128, P (Char.ofNat n)) {c : Char}
    (hc : c.toNat < 128) : P c := by
  have hChar := h c.toNat hc
  rwa [Char.ofNat_toNat] at hChar

theorem isAlphanum_of_isLower {c : Char} (h : c.isLower) : c.isAlphanum := by
  have hCases : c.isAlphanum = (c.isUpper || c.isLower || c.isDigit) := rfl
  simp [hCases, h]

theorem isAlphanum_of_isDigit {c : Char} (h : c.isDigit) : c.isAlphanum := by
  have hCases : c.isAlphanum = (c.isUpper || c.isLower || c.isDigit) := rfl
  simp [hCases, h]

theorem toNat_lt_of_isAlphanum {c : Char} (h : c.isAlphanum) : c.toNat < 128 := by
  delta Char.isAlphanum Char.isAlpha Char.isUpper Char.isLower Char.isDigit at h
  simp only [Bool.or_eq_true, Bool.and_eq_true, decide_eq_true_eq, UInt32.le_iff_toNat_le,
    ge_iff_le] at h
  have hZ : 'Z'.val.toNat = 90 := rfl
  have hz : 'z'.val.toNat = 122 := rfl
  have h9 : '9'.val.toNat = 57 := rfl
  have hNat : c.toNat = c.val.toNat := rfl
  omega

/-- Lower-case letters, digits and `_`. -/
def isSnake (c : Char) : Bool := c.isLower || c.isDigit || c == '_'

theorem toNat_lt_of_isSnake {c : Char} (h : isSnake c) : c.toNat < 128 := by
  simp only [isSnake, Bool.or_eq_true, beq_iff_eq] at h
  rcases h with (h | h) | rfl
  · exact toNat_lt_of_isAlphanum (isAlphanum_of_isLower h)
  · exact toNat_lt_of_isAlphanum (isAlphanum_of_isDigit h)
  · decide

theorem isSnake_toLower {c : Char} (h : c.isAlphanum) : isSnake c.toLower ∧ c.toLower ≠ '_' :=
  forall_ascii (P := fun c => c.isAlphanum → isSnake c.toLower ∧ c.toLower ≠ '_')
    (by decide +kernel) (toNat_lt_of_isAlphanum h) h

theorem not_isDigit_of_isLower {c : Char} (h : c.isLower) : c.isDigit = false :=
  forall_ascii (P := fun c => c.isLower → c.isDigit = false) (by decide +kernel)
    (toNat_lt_of_isAlphanum (isAlphanum_of_isLower h)) h

theorem isIdentifierPart_of_isSnake {c : Char} (h : isSnake c) : isIdentifierPart c :=
  forall_ascii (P := fun c => isSnake c → isIdentifierPart c)
    (by decide +kernel) (toNat_lt_of_isSnake h) h

theorem isIdentifierStart_of_isSnake {c : Char} (h : isSnake c) (hDigit : c.isDigit = false) :
    isIdentifierStart c :=
  forall_ascii (P := fun c => isSnake c → c.isDigit = false → isIdentifierStart c)
    (by decide +kernel) (toNat_lt_of_isSnake h) h hDigit

/-! ## Trimmed text -/

theorem dropWhile_subset (p : Char → Bool) (cs : List Char) : cs.dropWhile p ⊆ cs :=
  (List.dropWhile_suffix p).subset

/-- What is trimmed starts where the text without its front does. -/
theorem trimBoth_prefix_dropWhile (p : Char → Bool) (cs : List Char) :
    trimBoth p cs <+: cs.dropWhile p := by
  have hSuffix := List.dropWhile_suffix p (l := (cs.dropWhile p).reverse)
  rw [← List.reverse_prefix, List.reverse_reverse] at hSuffix
  exact hSuffix

theorem trimBoth_subset (p : Char → Bool) (cs : List Char) : trimBoth p cs ⊆ cs :=
  List.Subset.trans (trimBoth_prefix_dropWhile p cs).subset (dropWhile_subset p cs)

theorem not_of_trimBoth_eq_cons {p : Char → Bool} {cs rest : List Char} {c : Char}
    (h : trimBoth p cs = c :: rest) : p c = false := by
  obtain ⟨behind, hBehind⟩ := trimBoth_prefix_dropWhile p cs
  have hHead := List.head?_dropWhile_not p cs
  rw [← hBehind, h] at hHead
  exact hHead

theorem trimBoth_eq_nil {p : Char → Bool} {cs : List Char} :
    trimBoth p cs = [] ↔ ∀ c ∈ cs, p c := by
  rw [trimBoth, List.reverse_eq_nil_iff, List.dropWhile_eq_nil_iff]
  constructor
  · intro hRest c hc
    rw [← List.takeWhile_append_dropWhile (p := p) (l := cs)] at hc
    rcases List.mem_append.mp hc with hc | hc
    · exact List.mem_takeWhile_imp hc
    · exact hRest c (List.mem_reverse.mpr hc)
  · intro hAll c hc
    exact hAll c (dropWhile_subset p cs (List.mem_reverse.mp hc))

/-! ## Fragments -/

theorem isSnake_of_mem_fragmentChars {marked : Bool} {cs : List Char} {c : Char}
    (hc : c ∈ fragmentChars marked cs) : isSnake c := by
  induction cs generalizing marked with
  | nil => cases hc
  | cons a rest ih =>
    rw [fragmentChars] at hc
    split at hc
    · rename_i hAlphanum
      rcases List.mem_cons.mp hc with rfl | hc
      · exact (isSnake_toLower hAlphanum).1
      · exact ih hc
    · split at hc
      · exact ih hc
      · rcases List.mem_cons.mp hc with rfl | hc
        · rfl
        · exact ih hc

theorem toLower_mem_fragmentChars {marked : Bool} {cs : List Char} {a : Char} (ha : a ∈ cs)
    (hAlphanum : a.isAlphanum) : a.toLower ∈ fragmentChars marked cs := by
  induction cs generalizing marked with
  | nil => cases ha
  | cons b rest ih =>
    rw [fragmentChars]
    rcases List.mem_cons.mp ha with rfl | ha
    · rw [if_pos hAlphanum]
      exact List.mem_cons_self
    · split
      · exact List.mem_cons_of_mem _ (ih ha)
      · split
        · exact ih ha
        · exact List.mem_cons_of_mem _ (ih ha)

theorem fragmentChars_marks {marked : Bool} {cs : List Char} (h : ∀ c ∈ cs, ¬ c.isAlphanum) :
    ∀ c ∈ fragmentChars marked cs, c = '_' := by
  induction cs generalizing marked with
  | nil => simp [fragmentChars]
  | cons a rest ih =>
    have hRest := fun c hc => h c (List.mem_cons_of_mem a hc)
    rw [fragmentChars, if_neg (h a List.mem_cons_self)]
    split
    · exact ih hRest
    · exact List.forall_mem_cons.mpr ⟨rfl, ih hRest⟩

/-- Fragments are written in lower-case letters, digits and `_`; they start with a letter, or with
`_` in front of a digit. -/
structure IsFragment (cs : List Char) : Prop where
  snake : ∀ c ∈ cs, isSnake c
  start : ∀ c rest, cs = c :: rest → c.isLower ∨ c = '_' ∧ ∃ d more, rest = d :: more ∧ d.isDigit

theorem isFragment_identifierFragmentChars (cs : List Char) :
    IsFragment (identifierFragmentChars cs) := by
  have hSnake : ∀ c ∈ trimBoth (· == '_') (fragmentChars false cs), isSnake c := fun c hc =>
    isSnake_of_mem_fragmentChars (trimBoth_subset _ _ hc)
  unfold identifierFragmentChars
  cases hTrimmed : trimBoth (· == '_') (fragmentChars false cs) with
  | nil => exact ⟨by simp, by simp⟩
  | cons c rest =>
    rw [hTrimmed] at hSnake
    have hMark : (c == '_') = false := not_of_trimBoth_eq_cons (p := (· == '_')) hTrimmed
    -- a leading digit gets an underscore in front
    by_cases hDigit : c.isDigit
    · refine ⟨?_, ?_⟩
      · simpa [hDigit] using ⟨rfl, List.forall_mem_cons.mp hSnake⟩
      · rintro d more hSame
        simp only [hDigit, if_true] at hSame
        obtain ⟨rfl, rfl⟩ := List.cons.inj hSame
        exact .inr ⟨rfl, c, rest, rfl, hDigit⟩
    · refine ⟨by simpa [hDigit] using hSnake, ?_⟩
      rintro d more hSame
      simp only [hDigit] at hSame
      obtain ⟨rfl, rfl⟩ := List.cons.inj hSame
      have hLower := hSnake c List.mem_cons_self
      simp only [isSnake, hDigit, hMark] at hLower
      exact .inl (by simpa using hLower)

/-- The fragment of a text without ASCII letters and digits is empty, and no other. -/
theorem identifierFragmentChars_eq_nil {cs : List Char} :
    identifierFragmentChars cs = [] ↔ ∀ c ∈ cs, ¬ c.isAlphanum := by
  have hTrimmed : identifierFragmentChars cs = [] ↔
      trimBoth (· == '_') (fragmentChars false cs) = [] := by
    unfold identifierFragmentChars
    split
    · simp [*]
    · split <;> simp [*]
  rw [hTrimmed, trimBoth_eq_nil]
  constructor
  · intro hMarks a ha hAlphanum
    have hMark := hMarks _ (toLower_mem_fragmentChars ha hAlphanum)
    exact (isSnake_toLower hAlphanum).2 (beq_iff_eq.mp hMark)
  · intro hOther c hc
    exact beq_iff_eq.mpr (fragmentChars_marks hOther c hc)

/-- Snake-case text that does not start with a digit is an identifier. -/
theorem isIdentifierChars_of_snake {c : Char} {rest : List Char}
    (hSnake : ∀ d ∈ c :: rest, isSnake d) (hDigit : c.isDigit = false) :
    isIdentifierChars (c :: rest) := by
  obtain ⟨hFirst, hRest⟩ := List.forall_mem_cons.mp hSnake
  rw [isIdentifierChars, isIdentifierStart_of_isSnake hFirst hDigit, Bool.true_and,
    List.all_eq_true]
  exact fun d hd => isIdentifierPart_of_isSnake (hRest d hd)

namespace IsFragment

variable {cs tail : List Char}

theorem isIdentifierChars (h : IsFragment cs) (hcs : cs ≠ []) : isIdentifierChars cs := by
  cases cs with
  | nil => exact absurd rfl hcs
  | cons c rest =>
    refine isIdentifierChars_of_snake h.snake ?_
    rcases h.start c rest rfl with hLower | ⟨rfl, -⟩
    · exact not_isDigit_of_isLower hLower
    · rfl

theorem append (h : IsFragment cs) (hcs : cs ≠ []) (hTail : ∀ c ∈ tail, isSnake c) :
    IsFragment (cs ++ tail) := by
  refine ⟨List.forall_mem_append.mpr ⟨h.snake, hTail⟩, ?_⟩
  rintro c rest hSame
  cases cs with
  | nil => exact absurd rfl hcs
  | cons first more =>
    obtain ⟨rfl, rfl⟩ := List.cons.inj hSame
    rcases h.start first more rfl with hLower | ⟨rfl, d, digits, rfl, hDigit⟩
    · exact .inl hLower
    · exact .inr ⟨rfl, d, digits ++ tail, rfl, hDigit⟩

end IsFragment

end ServiceCompiler.Text
