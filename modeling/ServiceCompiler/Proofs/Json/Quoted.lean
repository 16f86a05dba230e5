import ServiceCompiler.Json.Quoted
import ServiceCompiler.Proofs.Outcome

/-! # Strings that are read back -/

namespace ServiceCompiler.Json

open ServiceCompiler.Outcome

/-- Control characters without a letter of their own are written in hexadecimal digits. -/
theorem escape_control {n : Nat} (hn : n < 0x20) (rest : List Char) :
    escape ('u' :: '0' :: '0' :: hexDigit (n / 16) :: hexDigit (n % 16) :: rest) =
      .ok (Char.ofNat n, rest) := by
  have hHex : ∀ m < 0x20, hexValue4? ['0', '0', hexDigit (m / 16), hexDigit (m % 16)] = some m := by
    decide
  have hSize : ∀ m < 0x20,
      4 ≤ (String.ofList ['0', '0', hexDigit (m / 16), hexDigit (m % 16)]).utf8ByteSize := by
    decide
  have hHalf : isTrailing n = false ∧ isLeading n = false := by
    simp only [isTrailing, isLeading, Bool.and_eq_false_iff, decide_eq_false_iff_not]
    omega
  have hRead : hexEscape ('0' :: '0' :: hexDigit (n / 16) :: hexDigit (n % 16) :: rest) =
      .ok (n, rest) := by
    have h := hSize n hn
    simp only [hexEscape, List.take_succ_cons, List.take_zero, hHex n hn, List.length_cons,
      List.length_nil, List.drop_succ_cons, List.drop_zero]
    rw [if_neg (by omega), if_neg (by decide)]
  have hLetter : simpleEscape? 'u' = none := by decide
  simp only [escape, hLetter, if_true, hRead, ok_bind, hHalf.1, hHalf.2]
  rfl

/-- A written character is read back, whatever follows it. -/
theorem quotedWith_writeChar (c : Char) (steps : Nat) (rest : List Char) :
    quotedWith id escape (steps + 1) (writeChar c ++ rest) =
      (quotedWith id escape steps rest >>= fun r => .ok (c :: r.1, r.2)) := by
  unfold writeChar
  -- the seven characters that are escaped by a letter or as they are
  iterate 7
    split
    · subst_vars
      rfl
  split
  · rename_i hControl
    simp only [List.cons_append, List.nil_append]
    rw [quotedWith, if_neg (by decide), if_pos rfl, escape_control hControl rest,
      Char.ofNat_toNat]
    rfl
  · rename_i hQuote hBackslash _ _ _ _ _ hControl
    simp only [List.cons_append, List.nil_append]
    rw [quotedWith, if_neg hQuote, if_neg hBackslash, if_neg hControl]
    rfl

theorem writeChar_ne_nil (c : Char) : writeChar c ≠ [] := by
  unfold writeChar
  repeat' split
  all_goals exact List.cons_ne_nil _ _

theorem length_le_flatMap_writeChar (cs : List Char) :
    cs.length ≤ (cs.flatMap writeChar).length := by
  induction cs with
  | nil => simp
  | cons c cs ih =>
    have hPos : 0 < (writeChar c).length := List.length_pos_iff.mpr (writeChar_ne_nil c)
    simp only [List.length_cons, List.flatMap_cons, List.length_append]
    omega

theorem quotedWith_flatMap (cs : List Char) {steps : Nat} (hSteps : cs.length < steps)
    (rest : List Char) :
    quotedWith id escape steps (cs.flatMap writeChar ++ '"' :: rest) = .ok (cs, rest) := by
  induction cs generalizing steps with
  | nil =>
    obtain ⟨steps, rfl⟩ := Nat.exists_eq_succ_of_ne_zero (Nat.ne_of_gt hSteps)
    rfl
  | cons c cs ih =>
    obtain ⟨steps, rfl⟩ := Nat.exists_eq_succ_of_ne_zero (Nat.ne_of_gt (Nat.zero_lt_of_lt hSteps))
    rw [List.flatMap_cons, List.append_assoc, quotedWith_writeChar,
      ih (Nat.lt_of_succ_lt_succ hSteps)]
    rfl

/-- A written string is read back, whatever follows it. -/
theorem quoted_writeString (s : String) (rest : List Char) :
    quoted (s.toList.flatMap writeChar ++ '"' :: rest) = .ok (s, rest) := by
  have hLength := length_le_flatMap_writeChar s.toList
  unfold quoted
  rw [quotedWith_flatMap s.toList (by simp only [List.length_append]; omega)]
  simp

end ServiceCompiler.Json
