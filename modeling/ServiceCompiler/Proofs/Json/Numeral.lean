import ServiceCompiler.Json.Numeral
import ServiceCompiler.Json.Printer
import ServiceCompiler.Proofs.Outcome

/-! # Numerals that are read back

A numeral ends in front of the first character that cannot continue it. So what is read off a text
is read off every longer text as well, provided that the addition does not continue the numeral.
Whole numbers of 64 bits always read back; of a double it has to be known. -/

namespace ServiceCompiler.Json

open ServiceCompiler.Decimal ServiceCompiler.Outcome

/-- The text does not begin like the continuation of a numeral. -/
def EndsNumeral : List Char → Prop
  | [] => True
  | c :: _ => c.isDigit = false ∧ c ≠ '.' ∧ c ≠ 'e' ∧ c ≠ 'E'

section Extension

variable {rest : List Char}

theorem startsWithDigit_append (hRest : EndsNumeral rest) (cs : List Char) :
    startsWithDigit (cs ++ rest) = startsWithDigit cs := by
  cases cs with
  | cons c cs => rfl
  | nil =>
    cases rest with
    | nil => rfl
    | cons c rest => exact hRest.1

theorem skipDigits_append (hRest : EndsNumeral rest) (cs : List Char) :
    skipDigits (cs ++ rest) = skipDigits cs ++ rest := by
  induction cs with
  | nil =>
    cases rest with
    | nil => rfl
    | cons c rest => simp [skipDigits, hRest.1]
  | cons c cs ih =>
    by_cases hc : c.isDigit
    · simpa [skipDigits, hc] using ih
    · simp [skipDigits, hc]

theorem collect_append (hRest : EndsNumeral rest) (limit n : Nat) (cs : List Char) :
    collect limit n (cs ++ rest) = ((collect limit n cs).1, (collect limit n cs).2 ++ rest) := by
  induction cs generalizing n with
  | nil =>
    cases rest with
    | nil => rfl
    | cons c rest => simp [collect, hRest.1]
  | cons c cs ih =>
    rw [List.cons_append, collect, collect]
    by_cases hc : c.isDigit
    · by_cases hn : 10 * n + digitValue c < limit
      · simpa [hc, hn] using ih (10 * n + digitValue c)
      · simp [hc, hn]
    · simp [hc]

theorem takeSign_append {cs : List Char} (hDigit : startsWithDigit (takeSign cs).2 = true) :
    takeSign (cs ++ rest) = ((takeSign cs).1, (takeSign cs).2 ++ rest) := by
  cases cs with
  | nil => cases hDigit
  | cons c cs =>
    by_cases hMinus : c = '-'
    · subst hMinus
      rfl
    · by_cases hPlus : c = '+'
      · subst hPlus
        rfl
      · simp [takeSign, hMinus, hPlus]

theorem exponentPart_append (hRest : EndsNumeral rest) {negative : Bool} {digits : Nat}
    {start : Int} {cs tail : List Char} {x : Number}
    (h : exponentPart negative digits start cs = .ok (x, tail)) :
    exponentPart negative digits start (cs ++ rest) = .ok (x, tail ++ rest) := by
  unfold exponentPart at h ⊢
  by_cases hDigit : startsWithDigit (takeSign cs).2 = true
  · rw [takeSign_append hDigit]
    simp only [hDigit, startsWithDigit_append hRest, collect_append hRest, if_true] at h ⊢
    by_cases hMore : startsWithDigit (collect exponentLimit 0 (takeSign cs).2).2 = true
    · rw [if_pos hMore] at h ⊢
      by_cases hLarge : digits ≠ 0 ∧ (!(takeSign cs).1) = true
      · rw [if_pos hLarge] at h
        cases h
      · rw [if_neg hLarge] at h ⊢
        cases h
        rw [skipDigits_append hRest]
    · rw [if_neg hMore] at h ⊢
      obtain ⟨y, hScale, hEnd⟩ := bind_eq_ok.mp h
      cases hEnd
      rw [hScale]
      rfl
  · simp only [hDigit] at h
    cases h

theorem append_ne_cons {c : Char} (hRest : ∀ r, rest ≠ c :: r) {cs : List Char}
    (h : ∀ r, cs ≠ c :: r) (r : List Char) : cs ++ rest ≠ c :: r := by
  cases cs with
  | nil => exact hRest r
  | cons d cs =>
    intro hEq
    cases hEq
    exact h cs rfl

theorem EndsNumeral.ne_point (hRest : EndsNumeral rest) (r : List Char) : rest ≠ '.' :: r := by
  rintro rfl
  exact hRest.2.1 rfl

theorem EndsNumeral.ne_lower (hRest : EndsNumeral rest) (r : List Char) : rest ≠ 'e' :: r := by
  rintro rfl
  exact hRest.2.2.1 rfl

theorem EndsNumeral.ne_upper (hRest : EndsNumeral rest) (r : List Char) : rest ≠ 'E' :: r := by
  rintro rfl
  exact hRest.2.2.2 rfl

theorem exponentOrEnd_end {negative : Bool} {digits : Nat} {start : Int} {cs : List Char}
    (hLower : ∀ r, cs ≠ 'e' :: r) (hUpper : ∀ r, cs ≠ 'E' :: r) :
    exponentOrEnd negative digits start cs =
      (scale negative digits start >>= fun x => .ok (.real x, cs)) := by
  unfold exponentOrEnd
  split
  · exact absurd rfl (hLower _)
  · exact absurd rfl (hUpper _)
  · rfl

theorem exponentOrEnd_append (hRest : EndsNumeral rest) {negative : Bool} {digits : Nat}
    {start : Int} {cs tail : List Char} {x : Number}
    (h : exponentOrEnd negative digits start cs = .ok (x, tail)) :
    exponentOrEnd negative digits start (cs ++ rest) = .ok (x, tail ++ rest) := by
  by_cases hLower : ∃ r, cs = 'e' :: r
  · obtain ⟨r, rfl⟩ := hLower
    exact exponentPart_append hRest h
  by_cases hUpper : ∃ r, cs = 'E' :: r
  · obtain ⟨r, rfl⟩ := hUpper
    exact exponentPart_append hRest h
  rw [not_exists] at hLower hUpper
  rw [exponentOrEnd_end hLower hUpper] at h
  obtain ⟨y, hScale, hEnd⟩ := bind_eq_ok.mp h
  cases hEnd
  rw [exponentOrEnd_end (append_ne_cons hRest.ne_lower hLower)
    (append_ne_cons hRest.ne_upper hUpper), hScale]
  rfl

theorem fractionPart_append (hRest : EndsNumeral rest) {negative : Bool} {digits : Nat}
    {start : Int} {cs tail : List Char} {x : Number}
    (h : fractionPart negative digits start cs = .ok (x, tail)) :
    fractionPart negative digits start (cs ++ rest) = .ok (x, tail ++ rest) := by
  unfold fractionPart at h ⊢
  rw [startsWithDigit_append hRest]
  by_cases hDigit : startsWithDigit cs = true
  · rw [if_pos hDigit] at h ⊢
    rw [collect_append hRest]
    simp only [List.length_append, Nat.add_sub_add_right, skipDigits_append hRest]
    exact exponentOrEnd_append hRest h
  · rw [if_neg hDigit] at h
    cases h

theorem afterWhole_end {negative : Bool} {n : Nat} {cs : List Char}
    (hPoint : ∀ r, cs ≠ '.' :: r) (hLower : ∀ r, cs ≠ 'e' :: r) (hUpper : ∀ r, cs ≠ 'E' :: r) :
    afterWhole negative n cs = .ok (wholeNumber negative n, cs) := by
  unfold afterWhole
  split
  · exact absurd rfl (hPoint _)
  · exact absurd rfl (hLower _)
  · exact absurd rfl (hUpper _)
  · rfl

theorem afterWhole_append (hRest : EndsNumeral rest) {negative : Bool} {n : Nat}
    {cs tail : List Char} {x : Number} (h : afterWhole negative n cs = .ok (x, tail)) :
    afterWhole negative n (cs ++ rest) = .ok (x, tail ++ rest) := by
  by_cases hPoint : ∃ r, cs = '.' :: r
  · obtain ⟨r, rfl⟩ := hPoint
    exact fractionPart_append hRest h
  by_cases hLower : ∃ r, cs = 'e' :: r
  · obtain ⟨r, rfl⟩ := hLower
    exact exponentPart_append hRest h
  by_cases hUpper : ∃ r, cs = 'E' :: r
  · obtain ⟨r, rfl⟩ := hUpper
    exact exponentPart_append hRest h
  rw [not_exists] at hPoint hLower hUpper
  rw [afterWhole_end hPoint hLower hUpper] at h
  cases h
  rw [afterWhole_end (append_ne_cons hRest.ne_point hPoint)
    (append_ne_cons hRest.ne_lower hLower) (append_ne_cons hRest.ne_upper hUpper)]

theorem afterExcess_pointless {negative : Bool} {n excess : Nat} {cs : List Char}
    (hPoint : ∀ r, cs ≠ '.' :: r) :
    afterExcess negative n excess cs = exponentOrEnd negative n excess cs := by
  unfold afterExcess
  split
  · exact absurd rfl (hPoint _)
  · rfl

theorem afterExcess_append (hRest : EndsNumeral rest) {negative : Bool} {n excess : Nat}
    {cs tail : List Char} {x : Number} (h : afterExcess negative n excess cs = .ok (x, tail)) :
    afterExcess negative n excess (cs ++ rest) = .ok (x, tail ++ rest) := by
  by_cases hPoint : ∃ r, cs = '.' :: r
  · obtain ⟨r, rfl⟩ := hPoint
    exact fractionPart_append hRest h
  rw [not_exists] at hPoint
  rw [afterExcess_pointless hPoint] at h
  rw [afterExcess_pointless (append_ne_cons hRest.ne_point hPoint)]
  exact exponentOrEnd_append hRest h

theorem unsignedNumeral_append (hRest : EndsNumeral rest) {negative : Bool}
    {cs tail : List Char} {x : Number} (h : unsignedNumeral negative cs = .ok (x, tail)) :
    unsignedNumeral negative (cs ++ rest) = .ok (x, tail ++ rest) := by
  cases cs with
  | nil => cases h
  | cons c cs =>
    have hCollect := collect_append hRest wordLimit 0 (c :: cs)
    rw [List.cons_append] at hCollect
    rw [List.cons_append]
    unfold unsignedNumeral at h ⊢
    simp only [hCollect, startsWithDigit_append hRest, skipDigits_append hRest,
      List.length_append, Nat.add_sub_add_right] at h ⊢
    by_cases hZero : c = '0'
    · rw [if_pos hZero] at h ⊢
      by_cases hMore : startsWithDigit cs = true
      · rw [if_pos hMore] at h
        cases h
      · rw [if_neg hMore] at h ⊢
        exact afterWhole_append hRest h
    · rw [if_neg hZero] at h ⊢
      by_cases hDigit : c.isDigit = true
      · rw [if_pos hDigit] at h ⊢
        by_cases hMore : startsWithDigit (collect wordLimit 0 (c :: cs)).2 = true
        · rw [if_pos hMore] at h ⊢
          exact afterExcess_append hRest h
        · rw [if_neg hMore] at h ⊢
          exact afterWhole_append hRest h
      · rw [if_neg hDigit] at h
        cases h

/-- What is read off a text is read off a longer text too. -/
theorem numeral_append (hRest : EndsNumeral rest) {cs tail : List Char} {x : Number}
    (h : numeral cs = .ok (x, tail)) : numeral (cs ++ rest) = .ok (x, tail ++ rest) := by
  cases cs with
  | nil => cases h
  | cons c cs =>
    by_cases hMinus : c = '-'
    · subst hMinus
      exact unsignedNumeral_append hRest h
    · have hUnsigned (ds : List Char) : numeral (c :: ds) = unsignedNumeral false (c :: ds) := by
        simp [numeral, hMinus]
      rw [hUnsigned] at h
      rw [List.cons_append, hUnsigned]
      exact unsignedNumeral_append hRest h

end Extension

theorem le_ofDigitChars (ds : List Char) (n : Nat) : n ≤ Nat.ofDigitChars 10 ds n := by
  induction ds generalizing n with
  | nil => simp
  | cons d ds ih =>
    rw [Nat.ofDigitChars_cons]
    have h := ih (10 * n + (d.toNat - '0'.toNat))
    omega

theorem collect_digits {limit n : Nat} {ds : List Char} (hDigits : ∀ d ∈ ds, d.isDigit = true)
    (hLimit : Nat.ofDigitChars 10 ds n < limit) :
    collect limit n ds = (Nat.ofDigitChars 10 ds n, []) := by
  induction ds generalizing n with
  | nil => simp [collect]
  | cons d ds ih =>
    rw [Nat.ofDigitChars_cons] at hLimit ⊢
    have hNext : 10 * n + digitValue d < limit := Nat.lt_of_le_of_lt (le_ofDigitChars ds _) hLimit
    rw [collect, if_pos (hDigits d List.mem_cons_self)]
    simp only [hNext, if_true]
    exact ih (fun c hc => hDigits c (List.mem_cons_of_mem _ hc)) hLimit

theorem isDigit_of_mem_toDigits {c : Char} {n : Nat} (h : c ∈ Nat.toDigits 10 n) :
    c.isDigit = true :=
  Nat.isDigit_of_mem_toDigits (by decide) (by decide) h

/-- No digits but those of zero begin with a zero. -/
theorem toDigits_eq_cons (n : Nat) (hn : 0 < n) :
    ∃ c ds, Nat.toDigits 10 n = c :: ds ∧ c ≠ '0' := by
  induction n using Nat.strongRecOn with
  | ind n ih =>
    by_cases hSmall : n < 10
    · refine ⟨n.digitChar, [], Nat.toDigits_of_lt_base hSmall, ?_⟩
      have hDigits : ∀ k < 10, 0 < k → Nat.digitChar k ≠ '0' := by decide
      exact hDigits n hSmall hn
    · obtain ⟨c, ds, hDigits, hc⟩ := ih (n / 10) (by omega) (by omega)
      refine ⟨c, ds ++ [(n % 10).digitChar], ?_, hc⟩
      rw [Nat.toDigits_of_base_le (by decide) (by omega), hDigits, List.cons_append]

theorem unsignedNumeral_toDigits (negative : Bool) {n : Nat} (hn : n < wordLimit) :
    unsignedNumeral negative (Nat.toDigits 10 n) = .ok (wholeNumber negative n, []) := by
  rcases Nat.eq_zero_or_pos n with rfl | hPos
  · rfl
  · obtain ⟨c, ds, hDigits, hc⟩ := toDigits_eq_cons n hPos
    have hCollect : collect wordLimit 0 (Nat.toDigits 10 n) = (n, []) := by
      have hValue := Nat.ofDigitChars_ten_toDigits (n := n)
      rw [collect_digits (fun d => isDigit_of_mem_toDigits) (by rwa [hValue]), hValue]
    have hDigit : c.isDigit = true := isDigit_of_mem_toDigits (hDigits ▸ List.mem_cons_self)
    rw [hDigits] at hCollect ⊢
    rw [unsignedNumeral, if_neg hc, if_pos hDigit, hCollect]
    rfl

/-- Whole numbers of 64 bits, with or without sign, read back. -/
theorem numeral_integer {n : Int} (hLow : -0x8000000000000000 ≤ n)
    (hHigh : n < 0x10000000000000000) :
    numeral (writeNumber (.integer n)) = .ok (.integer n, []) := by
  cases n with
  | ofNat n =>
    have hn : n < wordLimit := by
      change n < 0x10000000000000000
      exact Int.ofNat_lt.mp hHigh
    have hRead := unsignedNumeral_toDigits false hn
    have hText : writeNumber (.integer (Int.ofNat n)) = Nat.toDigits 10 n := by
      simp [writeNumber, Int.repr]
    have hMinus : ∀ r, Nat.toDigits 10 n ≠ '-' :: r := by
      intro r hEq
      have hDigit : '-'.isDigit = true := isDigit_of_mem_toDigits (hEq ▸ List.mem_cons_self)
      exact absurd hDigit (by decide)
    rw [hText]
    unfold numeral
    split
    · exact absurd ‹_› (hMinus _)
    · exact hRead
  | negSucc n =>
    have hn : n + 1 ≤ 0x8000000000000000 := by omega
    have hRead := unsignedNumeral_toDigits true
      (show n + 1 < wordLimit from Nat.lt_of_le_of_lt hn (by decide))
    have hText : writeNumber (.integer (Int.negSucc n)) = '-' :: Nat.toDigits 10 (n + 1) := by
      simp [writeNumber, Int.repr]
    rw [hText, numeral, hRead]
    have hWhole : wholeNumber true (n + 1) = .integer (Int.negSucc n) := by
      rw [wholeNumber, if_pos rfl, if_neg (by omega)]
      rfl
    rw [hWhole]

end ServiceCompiler.Json
