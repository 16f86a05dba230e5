import ServiceCompiler.Json.Skip
import ServiceCompiler.Proofs.Json.Document

/-! # Passing over what can be read

A string, a numeral or any other scalar that is read is also passed over, up to the same place, and
passing over one takes at least one character. -/

namespace ServiceCompiler.Json

open ServiceCompiler.Decimal ServiceCompiler.Outcome

variable {cs rest : List Char}

theorem length_skipBlanks_le (cs : List Char) : (skipBlanks cs).length ≤ cs.length :=
  (List.dropWhile_suffix isBlank).length_le

theorem hexEscape_eq_ok {n : Nat} (hRead : hexEscape cs = .ok (n, rest)) :
    rest = cs.drop 4 ∧ 4 ≤ cs.length := by
  unfold hexEscape at hRead
  simp only at hRead
  split at hRead
  · cases hRead
  · split at hRead
    · cases hRead
    · rename_i hLength
      split at hRead
      · cases hRead
        rw [List.length_take] at hLength
        exact ⟨rfl, by omega⟩
      · cases hRead

theorem length_hexEscape {n : Nat} (hRead : hexEscape cs = .ok (n, rest)) :
    rest.length < cs.length := by
  obtain ⟨rfl, hLength⟩ := hexEscape_eq_ok hRead
  rw [List.length_drop]
  omega

theorem length_skipEscape (hSkip : skipEscape cs = .ok ((), rest)) : rest.length < cs.length := by
  unfold skipEscape at hSkip
  split at hSkip
  · cases hSkip
  · split at hSkip
    · cases hSkip
      exact Nat.lt_succ_self _
    · split at hSkip
      · obtain ⟨⟨n, more⟩, hHex, hFound⟩ := bind_eq_ok.mp hSkip
        cases hFound
        exact Nat.lt_succ_of_lt (length_hexEscape hHex)
      · cases hSkip

/-- An escape is passed over in one go, or else in two when it stands for a surrogate pair. -/
theorem skipEscape_of_escape {c : Char} (hRead : escape cs = .ok (c, rest)) :
    skipEscape cs = .ok ((), rest) ∨
      ∃ more, skipEscape cs = .ok ((), '\\' :: more) ∧ skipEscape more = .ok ((), rest) := by
  have hPlain : (simpleEscape? 'u').isSome = false := by decide
  cases cs with
  | nil => cases hRead
  | cons d cs =>
    rw [escape] at hRead
    split at hRead
    · rename_i hSimple
      cases hRead
      left
      rw [skipEscape, hSimple]
      rfl
    · rename_i hSimple
      split at hRead
      · rename_i hU
        subst hU
        obtain ⟨⟨n, more⟩, hHex, hRead⟩ := bind_eq_ok.mp hRead
        have hSkip : skipEscape ('u' :: cs) = .ok ((), more) := by
          simp only [skipEscape, hPlain, hHex, ok_bind]
          rfl
        rw [hSkip]
        simp only at hRead
        split at hRead
        · cases hRead
        · split at hRead
          -- a leading surrogate takes the escape behind it along
          · unfold trailingSurrogate at hRead
            split at hRead
            · cases hRead
            · cases hRead
            · rename_i ds
              obtain ⟨⟨m, behind⟩, hSecond, hRead⟩ := bind_eq_ok.mp hRead
              simp only at hRead
              split at hRead
              · obtain ⟨-, rfl⟩ : _ ∧ behind = rest := by simpa using hRead
                refine .inr ⟨'u' :: ds, rfl, ?_⟩
                simp only [skipEscape, hPlain, hSecond, ok_bind]
                rfl
              · cases hRead
            · cases hRead
          · cases hRead
            exact .inl rfl
      · cases hRead

/-- The characters that are read up to the closing quote, with what stands behind it. -/
inductive QuotedText {α : Type} (plain : Char → α) (special : Reader Fault α) :
    List Char → List α → List Char → Prop
  | close {rest : List Char} : QuotedText plain special ('"' :: rest) [] rest
  | escaped {cs more rest : List Char} {x : α} {xs : List α} (hSpecial : special cs = .ok (x, more))
      (hMore : QuotedText plain special more xs rest) :
      QuotedText plain special ('\\' :: cs) (x :: xs) rest
  | simple {c : Char} {cs rest : List Char} {xs : List α} (hQuote : c ≠ '"') (hBackslash : c ≠ '\\')
      (hControl : ¬ c.toNat < 0x20) (hMore : QuotedText plain special cs xs rest) :
      QuotedText plain special (c :: cs) (plain c :: xs) rest

section Quoted

variable {α : Type} {plain : Char → α} {special : Reader Fault α} {xs : List α}

theorem quotedText_of_quotedWith {steps : Nat}
    (hRead : quotedWith plain special steps cs = .ok (xs, rest)) :
    QuotedText plain special cs xs rest := by
  induction steps generalizing cs xs with
  | zero => cases hRead
  | succ steps ih =>
    cases cs with
    | nil => cases hRead
    | cons c cs =>
      rw [quotedWith] at hRead
      split at hRead
      · rename_i hQuote
        subst hQuote
        cases hRead
        exact .close
      · rename_i hQuote
        split at hRead
        -- an escape, which `special` reads up to its end
        · rename_i hBackslash
          subst hBackslash
          obtain ⟨⟨x, more⟩, hSpecial, hRead⟩ := bind_eq_ok.mp hRead
          obtain ⟨⟨ys, behind⟩, hMore, hFound⟩ := bind_eq_ok.mp hRead
          cases hFound
          exact .escaped hSpecial (ih hMore)
        · rename_i hBackslash
          split at hRead
          · cases hRead
          · rename_i hControl
            obtain ⟨⟨ys, behind⟩, hMore, hFound⟩ := bind_eq_ok.mp hRead
            cases hFound
            exact .simple hQuote hBackslash hControl (ih hMore)

theorem QuotedText.length
    (hShorter : ∀ cs x rest, special cs = .ok (x, rest) → rest.length < cs.length)
    (hText : QuotedText plain special cs xs rest) : rest.length < cs.length := by
  induction hText with
  | close => exact Nat.lt_succ_self _
  | escaped hSpecial _ ih =>
    have hFirst := hShorter _ _ _ hSpecial
    rw [List.length_cons]
    omega
  | simple _ _ _ _ ih => exact Nat.lt_succ_of_lt ih

theorem QuotedText.quotedWith
    (hShorter : ∀ cs x rest, special cs = .ok (x, rest) → rest.length < cs.length)
    (hText : QuotedText plain special cs xs rest) {steps : Nat} (hSteps : cs.length < steps) :
    quotedWith plain special steps cs = .ok (xs, rest) := by
  induction hText generalizing steps with
  | close =>
    obtain ⟨steps, rfl⟩ := Nat.exists_eq_add_one_of_ne_zero (Nat.ne_zero_of_lt hSteps)
    rfl
  | escaped hSpecial _ ih =>
    obtain ⟨steps, rfl⟩ := Nat.exists_eq_add_one_of_ne_zero (Nat.ne_zero_of_lt hSteps)
    have hFirst := hShorter _ _ _ hSpecial
    rw [List.length_cons] at hSteps
    rw [Json.quotedWith, if_neg (by decide), if_pos rfl]
    simp only [hSpecial, ok_bind, ih (show _ < steps by omega), pure_eq_ok]
  | simple hQuote hBackslash hControl _ ih =>
    obtain ⟨steps, rfl⟩ := Nat.exists_eq_add_one_of_ne_zero (Nat.ne_zero_of_lt hSteps)
    rw [Json.quotedWith, if_neg hQuote, if_neg hBackslash, if_neg hControl,
      ih (Nat.lt_of_succ_lt_succ hSteps)]
    rfl

end Quoted

/-- Characters that are read can be passed over, an escape for a surrogate pair as two. -/
theorem QuotedText.skip {chars : List Char} (hText : QuotedText id escape cs chars rest) :
    ∃ units, QuotedText (fun _ => ()) skipEscape cs units rest := by
  induction hText with
  | close => exact ⟨[], .close⟩
  | escaped hEscape _ ih =>
    obtain ⟨units, hUnits⟩ := ih
    rcases skipEscape_of_escape hEscape with hSkip | ⟨half, hFirst, hSecond⟩
    · exact ⟨() :: units, .escaped hSkip hUnits⟩
    · exact ⟨() :: () :: units, .escaped hFirst (.escaped hSecond hUnits)⟩
  | simple hQuote hBackslash hControl _ ih =>
    obtain ⟨units, hUnits⟩ := ih
    exact ⟨() :: units, .simple hQuote hBackslash hControl hUnits⟩

theorem skipQuoted_of_quoted {s : String} (hRead : quoted cs = .ok (s, rest)) :
    skipQuoted cs = .ok ((), rest) := by
  obtain ⟨⟨chars, more⟩, hChars, hFound⟩ := bind_eq_ok.mp hRead
  cases hFound
  obtain ⟨units, hUnits⟩ := (quotedText_of_quotedWith hChars).skip
  have hSkip := hUnits.quotedWith (fun _ _ _ => length_skipEscape) (Nat.lt_succ_self cs.length)
  simp only [skipQuoted, hSkip, ok_bind, pure_eq_ok]

theorem length_skipQuoted (hSkip : skipQuoted cs = .ok ((), rest)) : rest.length < cs.length := by
  obtain ⟨⟨units, more⟩, hUnits, hFound⟩ := bind_eq_ok.mp hSkip
  cases hFound
  exact (quotedText_of_quotedWith hUnits).length fun _ _ _ => length_skipEscape

/-! ## Scalars -/

end ServiceCompiler.Json
