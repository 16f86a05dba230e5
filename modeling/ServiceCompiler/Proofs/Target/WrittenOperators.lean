import ServiceCompiler.Proofs.Text.Token
import ServiceCompiler.Vocabulary

/-! # Written operators

`Reading` is the shape of a written expression of operators, accesses, names and numbers. An access
stands behind a name, a number or parentheses, and a sign stands in front of all that follows it.
A text that begins with such an expression and stops behind it has one reading. -/

namespace ServiceCompiler.Operators

open Text (Name Ends ends_cons isIdentifierPart isIdentifierStart)

def sign : UnaryOp → Char
  | .not => '!'
  | .neg => '-'

/-- Whether an expression without a sign in front can begin with a character. -/
def starts (c : Char) : Bool := isIdentifierStart c || c.isDigit || c == '('

/-- Whether an expression can begin with a character. -/
def opens (c : Char) : Bool := starts c || c == '-' || c == '!'

/-- Whether a text in front of a blank differs from the beginning of every expression: what begins
with a sign goes on with another beginning. -/
def isSymbol : List Char → Bool
  | [] => false
  | [c] => !starts c
  | c :: d :: _ => !starts c && !opens d

/-- The texts of the binary operators. -/
structure Symbols where
  text : BinaryOp → String
  blankless : ∀ op, ∀ c ∈ (text op).toList, (c != ' ') = true
  injective : ∀ {op op' : BinaryOp}, text op = text op' → op = op'
  apart : ∀ op, Text.isIdentifier (text op) = true ∨ isSymbol (text op).toList = true

mutual

inductive Reading
  | name (x : Name) (tail : Tail)
  | number (n : Nat) (tail : Tail)
  | binary (op : BinaryOp) (left right : Reading) (tail : Tail)
  /-- A negation that is written as a word. -/
  | word (operand : Reading) (tail : Tail)
  | bare (op : UnaryOp) (operand : Reading)
  | guarded (op : UnaryOp) (operand : Reading) (tail : Tail)

/-- The accesses behind a name, a number or parentheses. -/
inductive Tail
  | done
  | field (x : Name) (tail : Tail)
  | index (position : Reading) (tail : Tail)

end

variable (symbols : Symbols)

mutual

def Reading.chars : Reading → List Char
  | .name x tail => x.chars ++ tail.chars
  | .number n tail => Nat.toDigits 10 n ++ tail.chars
  | .binary op left right tail =>
    '(' :: (left.chars ++ ' ' :: ((symbols.text op).toList ++
      ' ' :: (right.chars ++ ')' :: tail.chars)))
  | .word operand tail => '(' :: ("not".toList ++ ' ' :: (operand.chars ++ ')' :: tail.chars))
  | .bare op operand => sign op :: operand.chars
  | .guarded op operand tail => sign op :: '(' :: (operand.chars ++ ')' :: tail.chars)

def Tail.chars : Tail → List Char
  | .done => []
  | .field x tail => '.' :: (x.chars ++ tail.chars)
  | .index position tail => '[' :: (position.chars ++ ']' :: tail.chars)

end

/-! ## First characters -/

/-- What the first character of an expression tells. -/
inductive Lead
  | name
  | number
  | group
  | sign (op : UnaryOp)

def leadOf (c : Char) : Lead :=
  if c.isDigit then .number
  else if c = '(' then .group
  else if c = '-' then .sign .neg
  else if c = '!' then .sign .not
  else .name

def Reading.lead : Reading → Lead
  | .name _ _ => .name
  | .number _ _ => .number
  | .binary _ _ _ _ | .word _ _ => .group
  | .bare op _ | .guarded op _ _ => .sign op

theorem leadOf_start {c : Char} (h : isIdentifierStart c = true) : leadOf c = .name := by
  have hDigit : c.isDigit = false := by
    cases hc : c.isDigit with
    | false => rfl
    | true =>
      rw [Text.not_start_of_isDigit hc] at h
      cases h
  have hOther : c ≠ '(' ∧ c ≠ '-' ∧ c ≠ '!' := by
    refine ⟨?_, ?_, ?_⟩ <;> rintro rfl <;> exact absurd h (by decide)
  simp [leadOf, hDigit, hOther]

theorem leadOf_sign (op : UnaryOp) : leadOf (sign op) = .sign op := by
  cases op <;> rfl

theorem starts_of_opens {c : Char} (h : opens c = true) (hLead : ∀ op, leadOf c ≠ .sign op) :
    starts c = true := by
  simp only [opens, Bool.or_eq_true, beq_iff_eq] at h
  rcases h with (h | rfl) | rfl
  · exact h
  · exact absurd rfl (hLead .neg)
  · exact absurd rfl (hLead .not)

theorem Reading.chars_lead (r : Reading) :
    ∃ c cs, r.chars symbols = c :: cs ∧ leadOf c = r.lead ∧ opens c = true := by
  cases r with
  | name x tail =>
    obtain ⟨c, cs, hChars, hStart, -⟩ := x.chars_start
    refine ⟨c, cs ++ tail.chars symbols, ?_, leadOf_start hStart, by simp [opens, starts, hStart]⟩
    rw [Reading.chars, hChars, List.cons_append]
  | number n tail =>
    obtain ⟨c, cs, hDigits, hDigit⟩ := Text.digits_start n
    refine ⟨c, cs ++ tail.chars symbols, ?_, by simp [leadOf, hDigit, Reading.lead],
      by simp [opens, starts, hDigit]⟩
    rw [Reading.chars, hDigits, List.cons_append]
  | binary op left right tail => exact ⟨'(', _, rfl, rfl, rfl⟩
  | word operand tail => exact ⟨'(', _, rfl, rfl, rfl⟩
  | bare op operand => exact ⟨sign op, _, rfl, leadOf_sign op, by cases op <;> rfl⟩
  | guarded op operand tail => exact ⟨sign op, _, rfl, leadOf_sign op, by cases op <;> rfl⟩

/-- Expressions of the same text begin alike. -/
theorem lead_eq_of_append {r r' : Reading} {cs ds : List Char}
    (h : r.chars symbols ++ cs = r'.chars symbols ++ ds) : r.lead = r'.lead := by
  obtain ⟨c, as, hr, hLead, -⟩ := r.chars_lead symbols
  obtain ⟨d, bs, hr', hLead', -⟩ := r'.chars_lead symbols
  rw [hr, hr', List.cons_append, List.cons_append] at h
  rw [← hLead, ← hLead', (List.cons.inj h).1]

theorem lead_eq_group {r : Reading} {cs ds : List Char}
    (h : r.chars symbols ++ cs = '(' :: ds) : r.lead = .group := by
  obtain ⟨c, as, hr, hLead, -⟩ := r.chars_lead symbols
  rw [hr, List.cons_append] at h
  rw [← hLead, (List.cons.inj h).1]
  rfl

/-! ## Ends -/

/-- What can follow an expression. -/
def Stops (cs : List Char) : Prop := ∀ c ∈ cs.head?, c = ' ' ∨ c = ')' ∨ c = ']'

theorem stops_nil : Stops [] := by
  rintro c ⟨⟩

theorem stops_blank (cs : List Char) : Stops (' ' :: cs) := by
  rintro c ⟨⟩
  exact .inl rfl

theorem stops_close (cs : List Char) : Stops (')' :: cs) := by
  rintro c ⟨⟩
  exact .inr (.inl rfl)

theorem stops_bracket (cs : List Char) : Stops (']' :: cs) := by
  rintro c ⟨⟩
  exact .inr (.inr rfl)

/-- A name or a number ends in front of accesses and in front of what can follow. -/
theorem Tail.ends {kind : Char → Bool} (tail : Tail) {cs : List Char} (hs : Stops cs)
    (hKind : [' ', ')', ']', '.', '['].all (!kind ·) = true) :
    Ends kind (tail.chars symbols ++ cs) := by
  simp only [List.all_cons, List.all_nil, Bool.and_eq_true, Bool.not_eq_true', and_true] at hKind
  obtain ⟨hBlank, hClose, hBracket, hDot, hOpen⟩ := hKind
  cases tail with
  | done =>
    intro c hc
    rcases hs c hc with rfl | rfl | rfl
    · exact hBlank
    · exact hClose
    · exact hBracket
  | field x tail => exact ends_cons hDot _
  | index position tail => exact ends_cons hOpen _

theorem Symbols.append_inj {op op' : BinaryOp} {cs ds : List Char}
    (h : (symbols.text op).toList ++ ' ' :: cs = (symbols.text op').toList ++ ' ' :: ds) :
    op = op' ∧ cs = ds := by
  obtain ⟨hText, hRest⟩ := Text.run_append_inj (symbols.blankless op) (symbols.blankless op')
    (ends_cons rfl cs) (ends_cons rfl ds) h
  exact ⟨symbols.injective (String.toList_inj.mp hText), (List.cons.inj hRest).2⟩

/-- An expression that begins with a name and a blank is the name. -/
theorem Reading.stop_of_append_name {r : Reading} {x : Name} {cs ds : List Char} (hs : Stops cs)
    (h : r.chars symbols ++ cs = x.chars ++ ' ' :: ds) : cs = ' ' :: ds := by
  have hLead : r.lead = .name := by
    have hName : x.chars ++ ' ' :: ds = (Reading.name x .done).chars symbols ++ ' ' :: ds := by
      simp [Reading.chars, Tail.chars]
    exact lead_eq_of_append symbols (h.trans hName)
  cases r with
  | name y tail =>
    rw [Reading.chars, List.append_assoc] at h
    obtain ⟨-, hRest⟩ := Name.append_inj (tail.ends symbols hs (by decide))
      (ends_cons (by decide) ds) h
    cases tail with
    | done => exact hRest
    | field z tail => exact absurd (List.cons.inj hRest).1 (by decide)
    | index position tail => exact absurd (List.cons.inj hRest).1 (by decide)
  | _ => cases hLead

/-- Only a sign begins an expression without starting it, and then another beginning follows. -/
theorem Reading.chars_starts (r : Reading) : ∃ c cs, r.chars symbols = c :: cs ∧
    (starts c = true ∨ ∃ d ds, cs = d :: ds ∧ opens d = true) := by
  obtain ⟨c, cs, hChars, hLead, hOpens⟩ := r.chars_lead symbols
  cases r with
  | bare op operand =>
    obtain ⟨d, ds, hOperand, -, hOpens⟩ := operand.chars_lead symbols
    exact ⟨sign op, _, rfl, .inr ⟨d, ds, hOperand, hOpens⟩⟩
  | guarded op operand tail => exact ⟨sign op, _, rfl, .inr ⟨'(', _, rfl, rfl⟩⟩
  | _ => exact ⟨c, cs, hChars, .inl (starts_of_opens hOpens (by simp [hLead, Reading.lead]))⟩

theorem Reading.append_ne_of_isSymbol (r : Reading) {text : List Char} (h : isSymbol text = true)
    (cs ds : List Char) : r.chars symbols ++ cs ≠ text ++ ' ' :: ds := by
  intro hSame
  obtain ⟨c, rest, hChars, hStarts⟩ := r.chars_starts symbols
  rw [hChars, List.cons_append] at hSame
  match text with
  | [] => cases h
  | [d] =>
    obtain ⟨rfl, hRest⟩ := List.cons.inj hSame
    rcases hStarts with hStarts | ⟨e, es, rfl, hOpens⟩
    · simp [isSymbol, hStarts] at h
    · rw [(List.cons.inj hRest).1] at hOpens
      exact absurd hOpens (by decide)
  | d :: e :: more =>
    obtain ⟨rfl, hRest⟩ := List.cons.inj hSame
    rcases hStarts with hStarts | ⟨f, fs, rfl, hOpens⟩
    · simp [isSymbol, hStarts] at h
    · rw [(List.cons.inj hRest).1] at hOpens
      simp [isSymbol, hOpens] at h

/-- No expression begins with an operator and a blank and ends with a group. -/
theorem Reading.append_ne_symbol (r : Reading) (op : BinaryOp) (cs ds : List Char) :
    r.chars symbols ++ ')' :: cs ≠ (symbols.text op).toList ++ ' ' :: ds := by
  intro h
  rcases symbols.apart op with hName | hSymbol
  · have hText : (symbols.text op).toList = (Name.mk (symbols.text op) hName).chars := rfl
    rw [hText] at h
    have hStop := Reading.stop_of_append_name symbols (stops_close cs) h
    exact absurd (List.cons.inj hStop).1 (by decide)
  · exact r.append_ne_of_isSymbol symbols hSymbol _ ds h

/-! ## Unique reading -/

def notName : Name := ⟨"not", by decide⟩

/-- An operation with two operands is not a negation in words. -/
theorem binary_ne_word (op : BinaryOp) (left operand : Reading) (cs ds : List Char) :
    left.chars symbols ++ ' ' :: ((symbols.text op).toList ++ ' ' :: cs) ≠
      "not".toList ++ ' ' :: (operand.chars symbols ++ ')' :: ds) := by
  intro h
  have hStop := Reading.stop_of_append_name symbols (x := notName) (stops_blank _) h
  exact operand.append_ne_symbol symbols op ds cs (List.cons.inj hStop).2.symm

/-- An expression in parentheses alone is not a negation in words. -/
theorem group_ne_word (inner : Reading) (cs ds : List Char) :
    inner.chars symbols ++ ')' :: cs ≠ "not".toList ++ ' ' :: ds := by
  intro h
  have hStop := Reading.stop_of_append_name symbols (x := notName) (stops_close cs) h
  exact absurd (List.cons.inj hStop).1 (by decide)

mutual

/-- A text that begins with an expression and stops behind it determines the expression. -/
theorem Reading.append_inj : (r r' : Reading) → {cs ds : List Char} → Stops cs → Stops ds →
    r.chars symbols ++ cs = r'.chars symbols ++ ds → r = r' ∧ cs = ds
  | .name x tail, r', cs, ds, hs, ht, h => by
    have hLead := lead_eq_of_append symbols h
    cases r' with
    | name y tail' =>
      simp only [Reading.chars, List.append_assoc] at h
      obtain ⟨rfl, hTail⟩ := Name.append_inj (tail.ends symbols hs (by decide))
        (tail'.ends symbols ht (by decide)) h
      obtain ⟨rfl, rfl⟩ := Tail.append_inj tail tail' hs ht hTail
      exact ⟨rfl, rfl⟩
    | _ => cases hLead
  | .number n tail, r', cs, ds, hs, ht, h => by
    have hLead := lead_eq_of_append symbols h
    cases r' with
    | number m tail' =>
      simp only [Reading.chars, List.append_assoc] at h
      obtain ⟨rfl, hTail⟩ := Text.digits_append_inj (tail.ends symbols hs (by decide))
        (tail'.ends symbols ht (by decide)) h
      obtain ⟨rfl, rfl⟩ := Tail.append_inj tail tail' hs ht hTail
      exact ⟨rfl, rfl⟩
    | _ => cases hLead
  | .binary op left right tail, r', cs, ds, hs, ht, h => by
    have hLead := lead_eq_of_append symbols h
    cases r' with
    | binary op' left' right' tail' =>
      simp only [Reading.chars, List.cons_append, List.append_assoc, List.cons.injEq,
        true_and] at h
      obtain ⟨rfl, hBehind⟩ := Reading.append_inj left left' (stops_blank _) (stops_blank _) h
      obtain ⟨rfl, hRight⟩ := symbols.append_inj (List.cons.inj hBehind).2
      obtain ⟨rfl, hEnd⟩ := Reading.append_inj right right' (stops_close _) (stops_close _) hRight
      obtain ⟨rfl, rfl⟩ := Tail.append_inj tail tail' hs ht (List.cons.inj hEnd).2
      exact ⟨rfl, rfl⟩
    | word operand tail' =>
      simp only [Reading.chars, List.cons_append, List.append_assoc, List.cons.injEq,
        true_and] at h
      exact absurd h (binary_ne_word symbols op left operand _ _)
    | _ => cases hLead
  | .word operand tail, r', cs, ds, hs, ht, h => by
    have hLead := lead_eq_of_append symbols h
    cases r' with
    | word operand' tail' =>
      simp only [Reading.chars, List.cons_append, List.append_assoc, List.cons.injEq,
        true_and] at h
      have hOperand := (List.cons.inj (List.append_cancel_left h)).2
      obtain ⟨rfl, hBehind⟩ := Reading.append_inj operand operand' (stops_close _)
        (stops_close _) hOperand
      obtain ⟨rfl, rfl⟩ := Tail.append_inj tail tail' hs ht (List.cons.inj hBehind).2
      exact ⟨rfl, rfl⟩
    | binary op' left' right' tail' =>
      simp only [Reading.chars, List.cons_append, List.append_assoc, List.cons.injEq,
        true_and] at h
      exact absurd h.symm (binary_ne_word symbols op' left' operand _ _)
    | _ => cases hLead
  | .bare op operand, r', cs, ds, hs, ht, h => by
    have hLead := lead_eq_of_append symbols h
    cases r' with
    | bare op' operand' =>
      obtain rfl : op = op' := by cases hLead; rfl
      obtain ⟨rfl, rfl⟩ := Reading.append_inj operand operand' hs ht (List.cons.inj h).2
      exact ⟨rfl, rfl⟩
    | guarded op' operand' tail' =>
      simp only [Reading.chars, List.cons_append, List.append_assoc, List.cons.injEq] at h
      have hOpen := lead_eq_group symbols h.2
      -- the operand of the bare sign would begin with the guarded one and go on behind it
      cases operand with
      | binary op left right tail =>
        simp only [Reading.chars, List.cons_append, List.append_assoc, List.cons.injEq,
          true_and] at h
        obtain ⟨-, hBehind⟩ := Reading.append_inj left operand' (stops_blank _) (stops_close _) h.2
        exact absurd (List.cons.inj hBehind).1 (by decide)
      | word operand tail =>
        simp only [Reading.chars, List.cons_append, List.append_assoc, List.cons.injEq,
          true_and] at h
        exact absurd h.2.symm (group_ne_word symbols operand' _ _)
      | _ => cases hOpen
    | _ => cases hLead
  | .guarded op operand tail, r', cs, ds, hs, ht, h => by
    have hLead := lead_eq_of_append symbols h
    cases r' with
    | guarded op' operand' tail' =>
      obtain rfl : op = op' := by cases hLead; rfl
      simp only [Reading.chars, List.cons_append, List.append_assoc, List.cons.injEq,
        true_and] at h
      obtain ⟨rfl, hBehind⟩ := Reading.append_inj operand operand' (stops_close _)
        (stops_close _) h
      obtain ⟨rfl, rfl⟩ := Tail.append_inj tail tail' hs ht (List.cons.inj hBehind).2
      exact ⟨rfl, rfl⟩
    | bare op' operand' =>
      simp only [Reading.chars, List.cons_append, List.append_assoc, List.cons.injEq] at h
      have hOpen := lead_eq_group symbols h.2.symm
      cases operand' with
      | binary op' left' right' tail' =>
        simp only [Reading.chars, List.cons_append, List.append_assoc, List.cons.injEq,
          true_and] at h
        obtain ⟨-, hBehind⟩ := Reading.append_inj operand left' (stops_close _) (stops_blank _) h.2
        exact absurd (List.cons.inj hBehind).1 (by decide)
      | word operand' tail' =>
        simp only [Reading.chars, List.cons_append, List.append_assoc, List.cons.injEq,
          true_and] at h
        exact absurd h.2 (group_ne_word symbols operand _ _)
      | _ => cases hOpen
    | _ => cases hLead

theorem Tail.append_inj : (tail tail' : Tail) → {cs ds : List Char} → Stops cs → Stops ds →
    tail.chars symbols ++ cs = tail'.chars symbols ++ ds → tail = tail' ∧ cs = ds
  | .done, .done, _, _, _, _, h => ⟨rfl, h⟩
  | .field x tail, .field y tail', cs, ds, hs, ht, h => by
    simp only [Tail.chars, List.cons_append, List.append_assoc, List.cons.injEq, true_and] at h
    obtain ⟨rfl, hTail⟩ := Name.append_inj (tail.ends symbols hs (by decide))
      (tail'.ends symbols ht (by decide)) h
    obtain ⟨rfl, rfl⟩ := Tail.append_inj tail tail' hs ht hTail
    exact ⟨rfl, rfl⟩
  | .index position tail, .index position' tail', cs, ds, hs, ht, h => by
    simp only [Tail.chars, List.cons_append, List.append_assoc, List.cons.injEq, true_and] at h
    obtain ⟨rfl, hBehind⟩ := Reading.append_inj position position' (stops_bracket _)
      (stops_bracket _) h
    obtain ⟨rfl, rfl⟩ := Tail.append_inj tail tail' hs ht (List.cons.inj hBehind).2
    exact ⟨rfl, rfl⟩
  | .done, .field _ _, cs, _, hs, _, h | .done, .index _ _, cs, _, hs, _, h => by
    -- what stops the text would have to begin with a point or a bracket
    obtain rfl : cs = _ := h
    exact absurd (hs _ rfl) (by decide)
  | .field _ _, .done, _, ds, _, ht, h | .index _ _, .done, _, ds, _, ht, h => by
    obtain rfl : _ = ds := h
    exact absurd (ht _ rfl) (by decide)
  | .field _ _, .index _ _, _, _, _, _, h | .index _ _, .field _ _, _, _, _, _, h =>
    absurd (List.cons.inj h).1 (by decide)

end

theorem Reading.chars_injective {r r' : Reading} (h : r.chars symbols = r'.chars symbols) :
    r = r' := by
  have hSame : r.chars symbols ++ [] = r'.chars symbols ++ [] := by rw [h]
  exact (Reading.append_inj symbols r r' stops_nil stops_nil hSame).1

end ServiceCompiler.Operators
