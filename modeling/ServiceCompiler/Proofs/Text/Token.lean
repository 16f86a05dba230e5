import ServiceCompiler.Proofs.Text.Fragment

/-! # Names and numbers at the start of a text

A name or a number ends in front of the first character that cannot continue it. So a text that
begins with one and goes on differently determines it, and what stands behind it. -/

namespace ServiceCompiler.Text

/-- The text does not begin with a character of a kind. -/
def Ends (kind : Char → Bool) (cs : List Char) : Prop := ∀ c ∈ cs.head?, kind c = false

theorem ends_cons {kind : Char → Bool} {c : Char} (h : kind c = false) (cs : List Char) :
    Ends kind (c :: cs) := by
  rintro d ⟨⟩
  exact h

theorem takeWhile_append_ends {kind : Char → Bool} {rest : List Char} (hRest : Ends kind rest)
    (cs : List Char) : (cs ++ rest).takeWhile kind = cs.takeWhile kind := by
  induction cs with
  | nil =>
    cases rest with
    | nil => rfl
    | cons c cs => simp [hRest c rfl]
  | cons c cs ih => rw [List.cons_append, List.takeWhile_cons, List.takeWhile_cons, ih]

theorem takeWhile_append_of_ends {kind : Char → Bool} {run rest : List Char}
    (hRun : ∀ c ∈ run, kind c = true) (hRest : Ends kind rest) :
    (run ++ rest).takeWhile kind = run := by
  rw [takeWhile_append_ends hRest, List.takeWhile_eq_self_iff.mpr hRun]

/-- Characters of a kind in front of others are the same in the same texts. -/
theorem run_append_inj {kind : Char → Bool} {run other rest more : List Char}
    (hRun : ∀ c ∈ run, kind c = true) (hOther : ∀ c ∈ other, kind c = true)
    (hRest : Ends kind rest) (hMore : Ends kind more) (h : run ++ rest = other ++ more) :
    run = other ∧ rest = more := by
  have hSame : run = other := by
    rw [← takeWhile_append_of_ends hRun hRest, h, takeWhile_append_of_ends hOther hMore]
  subst hSame
  exact ⟨rfl, List.append_cancel_left h⟩

/-! ## Names -/

structure Name where
  text : String
  isIdentifier : isIdentifier text = true

namespace Name

def chars (x : Name) : List Char := x.text.toList

theorem chars_injective {x y : Name} (h : x.chars = y.chars) : x = y := by
  obtain ⟨s, hs⟩ := x
  obtain ⟨t, ht⟩ := y
  obtain rfl : s = t := String.toList_inj.mp h
  rfl

theorem chars_start (x : Name) :
    ∃ c cs, x.chars = c :: cs ∧ isIdentifierStart c = true ∧ ∀ d ∈ cs, isIdentifierPart d := by
  obtain ⟨text, hText⟩ := x
  change isIdentifierChars text.toList = true at hText
  rw [chars]
  cases hChars : text.toList with
  | nil => simp [hChars, isIdentifierChars] at hText
  | cons c cs =>
    rw [hChars, isIdentifierChars, Bool.and_eq_true, List.all_eq_true] at hText
    exact ⟨c, cs, rfl, hText.1, hText.2⟩

end Name

theorem isIdentifierPart_of_start {c : Char} (h : isIdentifierStart c = true) :
    isIdentifierPart c = true := by
  have hCases : c.isAlphanum = (c.isAlpha || c.isDigit) := rfl
  simp only [isIdentifierStart, isIdentifierPart, hCases, Bool.or_eq_true] at h ⊢
  rcases h with (h | h) | h <;> simp [h]

theorem not_start_of_isDigit {c : Char} (h : c.isDigit = true) : isIdentifierStart c = false :=
  forall_ascii (P := fun c => c.isDigit = true → isIdentifierStart c = false) (by decide +kernel)
    (toNat_lt_of_isAlphanum (isAlphanum_of_isDigit h)) h

namespace Name

theorem isIdentifierPart_of_mem {x : Name} {c : Char} (h : c ∈ x.chars) :
    isIdentifierPart c = true := by
  obtain ⟨d, cs, hChars, hStart, hRest⟩ := x.chars_start
  rw [hChars] at h
  rcases List.mem_cons.mp h with rfl | h
  · exact isIdentifierPart_of_start hStart
  · exact hRest c h

theorem append_inj {x y : Name} {rest more : List Char} (hRest : Ends isIdentifierPart rest)
    (hMore : Ends isIdentifierPart more) (h : x.chars ++ rest = y.chars ++ more) :
    x = y ∧ rest = more := by
  obtain ⟨hSame, hBehind⟩ := run_append_inj (fun _ => isIdentifierPart_of_mem)
    (fun _ => isIdentifierPart_of_mem) hRest hMore h
  exact ⟨chars_injective hSame, hBehind⟩

/-- A name does not start like a text that starts otherwise. -/
theorem append_ne_cons {c : Char} (hc : isIdentifierStart c = false) (x : Name)
    (rest more : List Char) : x.chars ++ rest ≠ c :: more := by
  intro h
  obtain ⟨d, cs, hChars, hStart, -⟩ := x.chars_start
  rw [hChars, List.cons_append] at h
  rw [(List.cons.inj h).1, hc] at hStart
  cases hStart

end Name

/-! ## Numbers -/

theorem isDigit_of_mem_digits {n : Nat} {c : Char} (h : c ∈ Nat.toDigits 10 n) :
    c.isDigit = true :=
  Nat.isDigit_of_mem_toDigits (by decide) (by decide) h

theorem digits_start (n : Nat) : ∃ c cs, Nat.toDigits 10 n = c :: cs ∧ c.isDigit = true := by
  cases hDigits : Nat.toDigits 10 n with
  | nil => exact absurd hDigits Nat.toDigits_ne_nil
  | cons c cs => exact ⟨c, cs, rfl, isDigit_of_mem_digits (hDigits ▸ List.mem_cons_self)⟩

theorem digits_append_inj {m n : Nat} {rest more : List Char} (hRest : Ends Char.isDigit rest)
    (hMore : Ends Char.isDigit more) (h : Nat.toDigits 10 m ++ rest = Nat.toDigits 10 n ++ more) :
    m = n ∧ rest = more := by
  obtain ⟨hDigits, hBehind⟩ := run_append_inj (fun _ => isDigit_of_mem_digits)
    (fun _ => isDigit_of_mem_digits) hRest hMore h
  refine ⟨?_, hBehind⟩
  rw [← Nat.ofDigitChars_ten_toDigits (n := m), hDigits, Nat.ofDigitChars_ten_toDigits]

end ServiceCompiler.Text
