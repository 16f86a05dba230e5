import ServiceCompiler.Proofs.Target.WrittenOperators
import ServiceCompiler.Target.PythonBody
import ServiceCompiler.Target.TypeScriptBody

/-! # The grouping of operators

A binary operation is written in parentheses, and so is a negation in words. A sign stands bare in
front of its operand, and an access behind the operation is then read as an access to the operand.
The text of an expression so tells the expression as it is read back, `regroup`; it tells the
expression itself if no access stands on an operation with a bare sign. -/

namespace ServiceCompiler.Operators

open ServiceCompiler.Core (Expr)
open Text (Name isIdentifierStart)

/-- Expressions of names, numbers, operators and accesses. -/
inductive OperatorTree : Expr → Prop
  | var {name : String} (h : Text.isIdentifier name = true) : OperatorTree (.var name)
  | int {n : Int64} (h : 0 ≤ n.toInt) : OperatorTree (.int n)
  | binary {left right : Expr} (op : BinaryOp) (hLeft : OperatorTree left)
      (hRight : OperatorTree right) : OperatorTree (.binary op left right)
  | unary {operand : Expr} (op : UnaryOp) (h : OperatorTree operand) :
      OperatorTree (.unary op operand)
  | field {target : Expr} {name : String} (h : OperatorTree target)
      (hName : Text.isIdentifier name = true) : OperatorTree (.field target name)
  | index {target position : Expr} (hTarget : OperatorTree target)
      (hPosition : OperatorTree position) : OperatorTree (.index target position)

/-! ## Styles -/

/-- How a unary operation is written: with a bare sign, with a sign and parentheses around the
operand, or as a word in parentheses. -/
inductive Shape
  | bare
  | guarded
  | word
  deriving DecidableEq

structure Style extends Symbols where
  /-- The shape of an operation, by whether the operand begins with a minus sign. -/
  shape : UnaryOp → Bool → Shape
  eq_not_of_word : ∀ {op signed}, shape op signed = .word → op = .not

def python : Style where
  text := Python.binaryText
  blankless := by
    intro op
    cases op <;> exact List.all_eq_true.mp (by decide)
  injective := by intro op op'; cases op <;> cases op' <;> decide
  apart := by
    intro op
    cases op with
    | and | or => exact .inl (by decide)
    | _ => exact .inr (by decide)
  shape
    | .not, _ => .word
    | .neg, _ => .bare
  eq_not_of_word := by intro op _; cases op <;> simp

def typeScript : Style where
  text := TypeScript.binaryText
  blankless := by
    intro op
    cases op <;> exact List.all_eq_true.mp (by decide)
  injective := by intro op op'; cases op <;> cases op' <;> decide
  apart := by
    intro op
    cases op <;> exact .inr (by decide)
  shape _ signed := if signed then .guarded else .bare
  eq_not_of_word := by intro _ signed; cases signed <;> simp

variable (style : Style)

def Style.unaryChars (op : UnaryOp) (operand : List Char) : List Char :=
  match style.shape op (operand.head? == some '-') with
  | .bare => sign op :: operand
  | .guarded => sign op :: '(' :: (operand ++ [')'])
  | .word => '(' :: ("not".toList ++ ' ' :: (operand ++ [')']))

def Style.render (style : Style) : Expr → List Char
  | .var name => name.toList
  | .int n => (toString n.toInt).toList
  | .binary op left right =>
    '(' :: (style.render left ++ ' ' :: ((style.text op).toList ++
      ' ' :: (style.render right ++ [')'])))
  | .unary op operand => style.unaryChars op (style.render operand)
  | .field target name => style.render target ++ '.' :: name.toList
  | .index target position => style.render target ++ '[' :: (style.render position ++ [']'])
  | _ => []

theorem emitted_ofList {s : String} {cs : List Char} (h : s.toList = cs) (n : Nat) :
    (⟨s, [], n⟩ : Source.Emitted String) = ⟨String.ofList cs, [], n⟩ := by
  rw [← h, String.ofList_toList]

theorem expr_python {e : Expr} (h : OperatorTree e) (bare : Bool) (n : Nat) :
    Python.expr bare e n = ⟨String.ofList (python.render e), [], n⟩ := by
  induction h generalizing bare n with
  | var _ | int _ => simp [Python.expr, Style.render]
  | binary op _ _ ihLeft ihRight =>
    simp only [Python.expr, Source.Emit.bind_apply, Source.Emit.pure_apply, ihLeft, ihRight]
    exact emitted_ofList (by simp [Style.render, python, toString]) n
  | unary op _ ih =>
    cases op with
    | not =>
      simp only [Python.expr, Source.Emit.bind_apply, Source.Emit.pure_apply, ih]
      exact emitted_ofList (by simp [Style.render, Style.unaryChars, python, toString]) n
    | neg =>
      simp only [Python.expr, Source.Emit.bind_apply, Source.Emit.pure_apply, ih]
      exact emitted_ofList (by simp [Style.render, Style.unaryChars, python, sign, toString]) n
  | field _ _ ih =>
    simp only [Python.expr, Source.Emit.bind_apply, Source.Emit.pure_apply, ih]
    exact emitted_ofList (by simp [Style.render, toString]) n
  | index _ _ ihTarget ihPosition =>
    simp only [Python.expr, Source.Emit.bind_apply, Source.Emit.pure_apply, ihTarget, ihPosition]
    exact emitted_ofList (by simp [Style.render, toString]) n

theorem startsWith_minus (cs : List Char) :
    (String.ofList cs).startsWith "-" = (cs.head? == some '-') := by
  rw [Bool.eq_iff_iff, String.startsWith_string_iff, String.toList_ofList, beq_iff_eq]
  cases cs with
  | nil => simp
  | cons c cs => simp [eq_comm]

theorem toList_unaryText (op : UnaryOp) (cs : List Char) :
    (TypeScript.unaryText op (String.ofList cs)).toList = typeScript.unaryChars op cs := by
  have hSign : (Core.unarySymbol op).toList = [sign op] := by cases op <;> rfl
  rw [TypeScript.unaryText, Style.unaryChars, startsWith_minus]
  cases cs.head? == some '-' <;> simp [typeScript, toString, hSign]

theorem expr_typeScript {e : Expr} (h : OperatorTree e) (bare : Bool) (n : Nat) :
    TypeScript.expr bare e n = ⟨String.ofList (typeScript.render e), [], n⟩ := by
  induction h generalizing bare n with
  | var _ | int _ => simp [TypeScript.expr, Style.render]
  | binary op _ _ ihLeft ihRight =>
    simp only [TypeScript.expr, Source.Emit.bind_apply, Source.Emit.pure_apply, ihLeft, ihRight]
    exact emitted_ofList (by simp [Style.render, typeScript, toString]) n
  | unary op _ ih =>
    simp only [TypeScript.expr, Source.Emit.bind_apply, Source.Emit.pure_apply, ih]
    exact emitted_ofList (toList_unaryText op _) n
  | field _ _ ih =>
    simp only [TypeScript.expr, Source.Emit.bind_apply, Source.Emit.pure_apply, ih]
    exact emitted_ofList (by simp [Style.render, toString]) n
  | index _ _ ihTarget ihPosition =>
    simp only [TypeScript.expr, Source.Emit.bind_apply, Source.Emit.pure_apply, ihTarget,
      ihPosition]
    exact emitted_ofList (by simp [Style.render, toString]) n

/-! ## Regrouping -/

inductive Access
  | field (name : String)
  | index (position : Expr)

def Access.on : Access → Expr → Expr
  | .field name, target => .field target name
  | .index position, target => .index target position

/-- Whether the text of an expression begins with a minus sign. -/
def signed : Expr → Bool
  | .unary .neg _ => true
  | .field target _ => signed target
  | .index target _ => signed target
  | _ => false

/-- Whether an expression is an operation with a bare sign. -/
def Style.isLoose : Expr → Bool
  | .unary op operand => style.shape op (signed operand) == .bare
  | _ => false

/-- The expression that is read where an access is written behind another one: the access belongs
to what stands behind the bare signs. -/
def Style.onto (style : Style) (access : Access) : Expr → Expr
  | .unary op operand =>
    if style.shape op (signed operand) = .bare then .unary op (style.onto access operand)
    else access.on (.unary op operand)
  | e => access.on e

/-- The expression that is read where an expression is written. -/
def Style.regroup (style : Style) : Expr → Expr
  | .binary op left right => .binary op (style.regroup left) (style.regroup right)
  | .unary op operand => .unary op (style.regroup operand)
  | .field target name => style.onto (.field name) (style.regroup target)
  | .index target position => style.onto (.index (style.regroup position)) (style.regroup target)
  | e => e

/-- No access stands on an operation with a bare sign. -/
def Style.isGrouped (style : Style) : Expr → Bool
  | .binary _ left right => style.isGrouped left && style.isGrouped right
  | .unary _ operand => style.isGrouped operand
  | .field target _ => !style.isLoose target && style.isGrouped target
  | .index target position =>
    !style.isLoose target && style.isGrouped target && style.isGrouped position
  | _ => true

theorem signed_on (access : Access) (e : Expr) : signed (access.on e) = signed e := by
  cases access <;> rfl

theorem isLoose_on (access : Access) (e : Expr) : style.isLoose (access.on e) = false := by
  cases access <;> rfl

theorem onto_of_not_isLoose {e : Expr} (access : Access) (h : style.isLoose e = false) :
    style.onto access e = access.on e := by
  cases e with
  | unary op operand =>
    have hShape : style.shape op (signed operand) ≠ .bare := by
      simpa [Style.isLoose] using h
    rw [Style.onto, if_neg hShape]
  | _ => rfl

theorem onto_unary {op : UnaryOp} {operand : Expr} (access : Access)
    (h : style.shape op (signed operand) = .bare) :
    style.onto access (.unary op operand) = .unary op (style.onto access operand) := by
  rw [Style.onto, if_pos h]

theorem signed_onto (access : Access) (e : Expr) : signed (style.onto access e) = signed e := by
  by_cases h : style.isLoose e = true
  · cases e with
    | unary op operand =>
      rw [onto_unary style access (by simpa [Style.isLoose] using h)]
      cases op <;> rfl
    | _ => cases h
  · rw [onto_of_not_isLoose style access (by simpa using h), signed_on]

theorem signed_regroup {e : Expr} (h : OperatorTree e) : signed (style.regroup e) = signed e := by
  induction h with
  | var _ | int _ | binary _ _ _ _ _ => rfl
  | unary op _ _ => cases op <;> rfl
  | field _ _ ih | index _ _ ih _ =>
    rw [Style.regroup, signed_onto, ih]
    rfl

/-- What is grouped already is read as it is. -/
theorem regroup_of_isGrouped {e : Expr} (h : OperatorTree e) (hGrouped : style.isGrouped e = true) :
    style.regroup e = e := by
  induction h with
  | var _ | int _ => rfl
  | binary op _ _ ihLeft ihRight =>
    simp only [Style.isGrouped, Bool.and_eq_true] at hGrouped
    rw [Style.regroup, ihLeft hGrouped.1, ihRight hGrouped.2]
  | unary op _ ih => rw [Style.regroup, ih hGrouped]
  | field _ _ ih =>
    simp only [Style.isGrouped, Bool.and_eq_true, Bool.not_eq_true'] at hGrouped
    rw [Style.regroup, ih hGrouped.2, onto_of_not_isLoose style _ hGrouped.1]
    rfl
  | index _ _ ihTarget ihPosition =>
    simp only [Style.isGrouped, Bool.and_eq_true, Bool.not_eq_true'] at hGrouped
    rw [Style.regroup, ihTarget hGrouped.1.2, ihPosition hGrouped.2,
      onto_of_not_isLoose style _ hGrouped.1.1]
    rfl

/-! ## The text of an expression as it is read -/

theorem toList_toString_int {n : Int64} (h : 0 ≤ n.toInt) :
    (toString n.toInt).toList = Nat.toDigits 10 n.toInt.toNat := by
  obtain ⟨k, hk⟩ := Int.eq_ofNat_of_zero_le h
  rw [hk]
  exact Nat.toList_repr

theorem head_unaryChars (op : UnaryOp) (operand : List Char) : ∃ c cs,
    style.unaryChars op operand = c :: cs ∧ (c == '-') = (op == .neg) := by
  rw [Style.unaryChars]
  split
  · exact ⟨sign op, _, rfl, by cases op <;> rfl⟩
  · exact ⟨sign op, _, rfl, by cases op <;> rfl⟩
  · rename_i hShape
    obtain rfl := style.eq_not_of_word hShape
    exact ⟨'(', _, rfl, rfl⟩

theorem render_eq_cons {e : Expr} (h : OperatorTree e) :
    ∃ c cs, style.render e = c :: cs ∧ (c == '-') = signed e := by
  induction h with
  | @var name hName =>
    obtain ⟨c, cs, hChars, hStart, -⟩ := (Name.mk name hName).chars_start
    refine ⟨c, cs, hChars, ?_⟩
    have hMinus : c ≠ '-' := by
      rintro rfl
      exact absurd hStart (by decide)
    simp [hMinus, signed]
  | @int n hn =>
    obtain ⟨c, cs, hDigits, hDigit⟩ := Text.digits_start n.toInt.toNat
    refine ⟨c, cs, by rw [Style.render, toList_toString_int hn, hDigits], ?_⟩
    have hMinus : c ≠ '-' := by
      rintro rfl
      exact absurd hDigit (by decide)
    simp [hMinus, signed]
  | binary _ _ _ _ _ => exact ⟨'(', _, rfl, rfl⟩
  | unary op _ _ =>
    obtain ⟨c, cs, hChars, hSigned⟩ := head_unaryChars style op _
    exact ⟨c, cs, hChars, by rw [hSigned]; cases op <;> rfl⟩
  | field _ _ ih | index _ _ ih _ =>
    obtain ⟨c, cs, hChars, hSigned⟩ := ih
    exact ⟨c, _, by rw [Style.render, hChars, List.cons_append], hSigned⟩

/-- The shape of an operation goes by its operand. -/
theorem head_render_append {e : Expr} (h : OperatorTree e) (cs : List Char) :
    ((style.render e ++ cs).head? == some '-') = signed e := by
  obtain ⟨c, rest, hChars, hSigned⟩ := render_eq_cons style h
  rw [hChars, ← hSigned]
  rfl

theorem head_render {e : Expr} (h : OperatorTree e) :
    ((style.render e).head? == some '-') = signed e := by
  simpa using head_render_append style h []

theorem render_onto {e : Expr} (access : Access) {suffix : List Char}
    (hOn : ∀ e, style.render (access.on e) = style.render e ++ suffix) (h : OperatorTree e) :
    style.render (style.onto access e) = style.render e ++ suffix := by
  induction h with
  | @unary operand op hOperand ih =>
    by_cases hShape : style.shape op (signed operand) = .bare
    · rw [onto_unary style access hShape, Style.render, Style.render, ih, Style.unaryChars,
        Style.unaryChars, head_render_append style hOperand, head_render style hOperand, hShape]
      rfl
    · rw [onto_of_not_isLoose style access (by simpa [Style.isLoose] using hShape), hOn]
  | _ => exact hOn _

theorem OperatorTree.onto {e : Expr} (access : Access)
    (hOn : ∀ e, OperatorTree e → OperatorTree (access.on e)) (h : OperatorTree e) :
    OperatorTree (style.onto access e) := by
  induction h with
  | @unary operand op hOperand ih =>
    rw [Style.onto]
    split
    · exact .unary op ih
    · exact hOn _ (.unary op hOperand)
  | var h => exact hOn _ (.var h)
  | int h => exact hOn _ (.int h)
  | binary op hLeft hRight _ _ => exact hOn _ (.binary op hLeft hRight)
  | field h hName _ => exact hOn _ (.field h hName)
  | index hTarget hPosition _ _ => exact hOn _ (.index hTarget hPosition)

theorem OperatorTree.regroup {e : Expr} (h : OperatorTree e) : OperatorTree (style.regroup e) := by
  induction h with
  | var h => exact .var h
  | int h => exact .int h
  | binary op _ _ ihLeft ihRight => exact .binary op ihLeft ihRight
  | unary op _ ih => exact .unary op ih
  | field _ hName ih => exact .onto style _ (fun _ h => .field h hName) ih
  | index _ _ ihTarget ihPosition => exact .onto style _ (fun _ h => .index h ihPosition) ihTarget

theorem render_regroup {e : Expr} (h : OperatorTree e) :
    style.render (style.regroup e) = style.render e := by
  induction h with
  | var _ | int _ => rfl
  | binary op _ _ ihLeft ihRight =>
    rw [Style.regroup, Style.render, Style.render, ihLeft, ihRight]
  | unary op _ ih => rw [Style.regroup, Style.render, Style.render, ih]
  | @field _ name h _ ih =>
    rw [Style.regroup, render_onto style (.field name) (fun _ => rfl) (h.regroup style), ih]
    rfl
  | @index _ position h _ ihTarget ihPosition =>
    rw [Style.regroup, render_onto style (.index (style.regroup position)) (fun _ => rfl)
      (h.regroup style), ihTarget, ihPosition]
    rfl

/-! ## From an expression to its reading -/

mutual

def Reading.toExpr : Reading → Expr
  | .name x tail => tail.apply (.var x.text)
  | .number n tail => tail.apply (.int (Int64.ofInt n))
  | .binary op left right tail => tail.apply (.binary op left.toExpr right.toExpr)
  | .word operand tail => tail.apply (.unary .not operand.toExpr)
  | .bare op operand => .unary op operand.toExpr
  | .guarded op operand tail => tail.apply (.unary op operand.toExpr)

def Tail.apply : Tail → Expr → Expr
  | .done, e => e
  | .field x tail, e => tail.apply (.field e x.text)
  | .index position tail, e => tail.apply (.index e position.toExpr)

end

/-- The expression that is read where accesses are written behind another one. -/
def Style.attach (style : Style) : Tail → Expr → Expr
  | .done, e => e
  | .field x tail, e => style.attach tail (style.onto (.field x.text) e)
  | .index position tail, e => style.attach tail (style.onto (.index position.toExpr) e)

theorem attach_of_not_isLoose : (tail : Tail) → {e : Expr} → style.isLoose e = false →
    style.attach tail e = tail.apply e
  | .done, _, _ => by rw [Style.attach, Tail.apply]
  | .field x tail, e, h => by
    rw [Style.attach, onto_of_not_isLoose style _ h, Tail.apply]
    exact attach_of_not_isLoose tail (isLoose_on style (.field x.text) e)
  | .index position tail, e, h => by
    rw [Style.attach, onto_of_not_isLoose style _ h, Tail.apply]
    exact attach_of_not_isLoose tail (isLoose_on style (.index position.toExpr) e)

theorem attach_unary {op : UnaryOp} : (tail : Tail) → {operand : Expr} →
    style.shape op (signed operand) = .bare →
    style.attach tail (.unary op operand) = .unary op (style.attach tail operand)
  | .done, _, _ => by rw [Style.attach, Style.attach]
  | .field x tail, operand, h => by
    rw [Style.attach, Style.attach, onto_unary style _ h]
    exact attach_unary tail (by rw [signed_onto, h])
  | .index position tail, operand, h => by
    rw [Style.attach, Style.attach, onto_unary style _ h]
    exact attach_unary tail (by rw [signed_onto, h])

/-- In front of any accesses, the text of an expression has a reading, which is the expression with
the accesses where they are read. -/
def Readable (e : Expr) : Prop :=
  ∀ tail : Tail, ∃ r : Reading,
    r.chars style.toSymbols = style.render e ++ tail.chars style.toSymbols ∧
      r.toExpr = style.attach tail (style.regroup e)

theorem Readable.alone {e : Expr} (h : Readable style e) : ∃ r : Reading,
    r.chars style.toSymbols = style.render e ∧ r.toExpr = style.regroup e := by
  obtain ⟨r, hChars, hExpr⟩ := h .done
  exact ⟨r, by simpa [Tail.chars] using hChars, by rw [hExpr, Style.attach]⟩

theorem readable_unary {operand : Expr} (op : UnaryOp) (h : OperatorTree operand)
    (hOperand : Readable style operand) : Readable style (.unary op operand) := by
  intro tail
  obtain ⟨r, hChars, hExpr⟩ := hOperand.alone
  have hShape : style.shape op (signed (style.regroup operand)) =
      style.shape op (signed operand) := by rw [signed_regroup style h]
  rw [Style.regroup, Style.render, Style.unaryChars, head_render style h]
  cases hOp : style.shape op (signed operand) with
  | bare =>
    -- no parenthesis closes the operand, so what follows is read as part of it
    obtain ⟨r, hChars, hExpr⟩ := hOperand tail
    refine ⟨.bare op r, by rw [Reading.chars, hChars]; rfl, ?_⟩
    rw [Reading.toExpr, hExpr, attach_unary style tail (hShape.trans hOp)]
  | guarded =>
    refine ⟨.guarded op r tail, by simp [Reading.chars, hChars], ?_⟩
    rw [Reading.toExpr, hExpr, attach_of_not_isLoose]
    simp [Style.isLoose, hShape, hOp]
  | word =>
    obtain rfl := style.eq_not_of_word hOp
    refine ⟨.word r tail, by simp [Reading.chars, hChars], ?_⟩
    rw [Reading.toExpr, hExpr, attach_of_not_isLoose]
    simp [Style.isLoose, hShape, hOp]

theorem OperatorTree.readable {e : Expr} (h : OperatorTree e) : Readable style e := by
  induction h with
  | @var name hName =>
    intro tail
    exact ⟨.name ⟨name, hName⟩ tail, rfl, (attach_of_not_isLoose style tail rfl).symm⟩
  | @int n hn =>
    intro tail
    refine ⟨.number n.toInt.toNat tail, ?_, ?_⟩
    · rw [Reading.chars, Style.render, toList_toString_int hn]
    · rw [Reading.toExpr, Int.toNat_of_nonneg hn, Int64.ofInt_toInt]
      exact (attach_of_not_isLoose style tail rfl).symm
  | @binary left right op _ _ ihLeft ihRight =>
    intro tail
    obtain ⟨l, hLeft, hLeftExpr⟩ := ihLeft.alone
    obtain ⟨r, hRight, hRightExpr⟩ := ihRight.alone
    refine ⟨.binary op l r tail, by simp [Reading.chars, Style.render, hLeft, hRight], ?_⟩
    rw [Reading.toExpr, hLeftExpr, hRightExpr]
    exact (attach_of_not_isLoose style tail rfl).symm
  | unary op hOperand ih => exact readable_unary style op hOperand ih
  | @field target name _ hName ih =>
    intro tail
    obtain ⟨r, hChars, hExpr⟩ := ih (.field ⟨name, hName⟩ tail)
    refine ⟨r, ?_, hExpr⟩
    rw [hChars, Style.render, Tail.chars]
    simp [Name.chars]
  | @index target position _ _ ihTarget ihPosition =>
    intro tail
    obtain ⟨p, hPosition, hPositionExpr⟩ := ihPosition.alone
    obtain ⟨r, hChars, hExpr⟩ := ihTarget (.index p tail)
    refine ⟨r, ?_, ?_⟩
    · rw [hChars, Style.render, Tail.chars, hPosition]
      simp
    · rw [hExpr, Style.attach, hPositionExpr]
      rfl

/-! ## What the text of an expression tells -/

theorem render_eq_iff {a b : Expr} (ha : OperatorTree a) (hb : OperatorTree b) :
    style.render a = style.render b ↔ style.regroup a = style.regroup b := by
  constructor
  · intro h
    obtain ⟨r, hr, hrExpr⟩ := (ha.readable style).alone
    obtain ⟨r', hr', hrExpr'⟩ := (hb.readable style).alone
    obtain rfl : r = r' := Reading.chars_injective style.toSymbols (by rw [hr, hr', h])
    rw [← hrExpr, hrExpr']
  · intro h
    rw [← render_regroup style ha, h, render_regroup style hb]

theorem eq_of_render_eq {a b : Expr} (ha : OperatorTree a) (hb : OperatorTree b)
    (haGrouped : style.isGrouped a = true) (hbGrouped : style.isGrouped b = true)
    (h : style.render a = style.render b) : a = b := by
  rw [← regroup_of_isGrouped style ha haGrouped, (render_eq_iff style ha hb).mp h,
    regroup_of_isGrouped style hb hbGrouped]

/-- Two expressions have one text exactly if they are read as the same expression, in both
languages. Expressions in which no access stands on an operation with a bare sign have one text
only if they are equal. -/
theorem expr_text_eq_iff {a b : Expr} (ha : OperatorTree a) (hb : OperatorTree b) (bare : Bool)
    (n : Nat) :
    ((Python.expr bare a n).value = (Python.expr bare b n).value ↔
      python.regroup a = python.regroup b) ∧
    ((TypeScript.expr bare a n).value = (TypeScript.expr bare b n).value ↔
      typeScript.regroup a = typeScript.regroup b) ∧
    (python.isGrouped a = true → python.isGrouped b = true →
      (Python.expr bare a n).value = (Python.expr bare b n).value → a = b) ∧
    (typeScript.isGrouped a = true → typeScript.isGrouped b = true →
      (TypeScript.expr bare a n).value = (TypeScript.expr bare b n).value → a = b) := by
  simp only [expr_python ha, expr_python hb, expr_typeScript ha, expr_typeScript hb,
    String.ofList_inj]
  refine ⟨render_eq_iff python ha hb, render_eq_iff typeScript ha hb, ?_, ?_⟩
  · intro haGrouped hbGrouped h
    exact eq_of_render_eq python ha hb haGrouped hbGrouped h
  · intro haGrouped hbGrouped h
    exact eq_of_render_eq typeScript ha hb haGrouped hbGrouped h

/-- The size of a negated value. -/
def sizeOfNegated (op : UnaryOp) : Expr := .field (.unary op (.var "x")) "size"

/-- The negated size of a value. -/
def negatedSize (op : UnaryOp) : Expr := .unary op (.field (.var "x") "size")

theorem operatorTree_sizeOfNegated (op : UnaryOp) : OperatorTree (sizeOfNegated op) :=
  .field (.unary op (.var (by decide))) (by decide)

theorem operatorTree_negatedSize (op : UnaryOp) : OperatorTree (negatedSize op) :=
  .unary op (.field (.var (by decide)) (by decide))

def element : Expr := .index (.var "y") (.int 0)

theorem operatorTree_element : OperatorTree element :=
  .index (.var (by decide)) (.int (by decide))

/-- Two differences of a negated size, an element and a number, grouped from the left. -/
def leftDifference : Expr := .binary .sub (.binary .sub (negatedSize .neg) element) (.int 1)

/-- The same operands, grouped from the right. -/
def rightDifference : Expr := .binary .sub (negatedSize .neg) (.binary .sub element (.int 1))

theorem operatorTree_leftDifference : OperatorTree leftDifference :=
  .binary .sub (.binary .sub (operatorTree_negatedSize .neg) operatorTree_element)
    (.int (by decide))

theorem operatorTree_rightDifference : OperatorTree rightDifference :=
  .binary .sub (operatorTree_negatedSize .neg)
    (.binary .sub operatorTree_element (.int (by decide)))

theorem expr_text_differences : OperatorTree leftDifference ∧ OperatorTree rightDifference ∧
    python.isGrouped leftDifference = true ∧ python.isGrouped rightDifference = true ∧
    typeScript.isGrouped leftDifference = true ∧ typeScript.isGrouped rightDifference = true ∧
    (Python.expr false leftDifference 0).value ≠ (Python.expr false rightDifference 0).value ∧
    (TypeScript.expr false leftDifference 0).value ≠
      (TypeScript.expr false rightDifference 0).value := by
  have hDistinct : leftDifference ≠ rightDifference := by
    intro h
    cases h
  obtain ⟨-, -, hPython, hTypeScript⟩ :=
    expr_text_eq_iff operatorTree_leftDifference operatorTree_rightDifference false 0
  refine ⟨operatorTree_leftDifference, operatorTree_rightDifference, rfl, rfl, rfl, rfl, ?_, ?_⟩
  · intro h
    exact hDistinct (hPython rfl rfl h)
  · intro h
    exact hDistinct (hTypeScript rfl rfl h)

/-- Both are written `-x.size`, and with the other operator `!x.size`. -/
theorem expr_text_negatedSize :
    (∀ op, OperatorTree (sizeOfNegated op) ∧ OperatorTree (negatedSize op) ∧
      sizeOfNegated op ≠ negatedSize op) ∧
    (Python.expr false (sizeOfNegated .neg) 0).value = "-x.size" ∧
    (Python.expr false (negatedSize .neg) 0).value = "-x.size" ∧
    (TypeScript.expr false (sizeOfNegated .not) 0).value = "!x.size" ∧
    (TypeScript.expr false (negatedSize .not) 0).value = "!x.size" := by
  refine ⟨fun op => ⟨operatorTree_sizeOfNegated op, operatorTree_negatedSize op, ?_⟩,
    ?_, ?_, ?_, ?_⟩
  · intro h
    cases h
  · rw [expr_python (operatorTree_sizeOfNegated .neg)]
    rfl
  · rw [expr_python (operatorTree_negatedSize .neg)]
    rfl
  · rw [expr_typeScript (operatorTree_sizeOfNegated .not)]
    rfl
  · rw [expr_typeScript (operatorTree_negatedSize .not)]
    rfl

end ServiceCompiler.Operators
