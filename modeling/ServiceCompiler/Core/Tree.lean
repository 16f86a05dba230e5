import ServiceCompiler.Vocabulary

/-! # The core language

Types, patterns, expressions and statements as every target sees them. Nothing in a body is
unsupported any more: what was not understood has become `null`, `_`, `any` or a statement that
does nothing. -/

namespace ServiceCompiler.Core

inductive Ty
  | int
  | float
  | string
  | bool
  | any
  | array (element : Ty)
  | optional (inner : Ty)
  | future (result : Ty)
  | union (members : List Ty)
  | generic (name : String) (args : List Ty)
  | named (name : String)
  | provider (name : String)
  | function (params : List Ty) (result : Ty)
  deriving Inhabited, BEq

mutual

inductive Pattern
  | literal (value : Literal)
  | variable (name : String)
  | wildcard
  | object (fields : List PatternField)
  | array (elements : List Pattern) (rest : Option String)

/-- A key without a pattern binds the field to a variable of the same name. -/
structure PatternField where
  key : String
  pattern : Option Pattern

end

/-- A remark on a field, such as a least length. -/
structure Decorator where
  name : String
  params : List Literal
  deriving BEq

mutual

inductive Expr
  | int (n : Int64)
  | float (x : Float)
  | string (s : String)
  | bool (b : Bool)
  | null
  | var (name : String)
  | binary (op : BinaryOp) (left right : Expr)
  | unary (op : UnaryOp) (operand : Expr)
  | field (object : Expr) (name : String)
  | index (object index : Expr)
  /-- A receiver stands in front of the other arguments. -/
  | call (name : String) (typeArgs : List Ty) (args : List Expr)
  | object (fields : List ObjectField)
  | array (elements : List Expr)
  | lambda (params : List Field) (body : LambdaBody)
  | pipe (left right : Expr)
  | matchOn (value : Expr) (cases : List MatchCase)
  | async (body : List Stmt)
  | await (expr : Expr)

inductive LambdaBody
  | expr (body : Expr)
  | block (body : List Stmt)

inductive Stmt
  | assign (target : String) (value : Expr)
  | reassign (target : String) (value : Expr)
  | ret (value : Expr)
  | cond (condition : Expr) (thenBody elseBody : List Stmt)
  | forEach (key : Option String) (value : String) (iterable : Expr) (body : List Stmt)
  | whileLoop (condition : Expr) (body : List Stmt)
  | switch (value : Expr) (cases : List SwitchCase) (otherwise : List Stmt)
  | expr (expr : Expr)
  | validate (call : Expr)
  | breakLoop
  | continueLoop

structure ObjectField where
  key : String
  value : Expr

structure MatchCase where
  pattern : Pattern
  guard : Option Expr
  body : Expr

structure SwitchCase where
  value : Expr
  body : List Stmt

/-- A field of a record, or a parameter. -/
structure Field where
  name : String
  type : Ty
  /-- Whether the value has to be present. -/
  required : Bool
  default : Option Expr
  decorators : List Decorator

end

deriving instance BEq for Pattern, PatternField

deriving instance BEq for Expr, LambdaBody, Stmt, ObjectField, MatchCase, SwitchCase, Field

instance : Inhabited Expr := ⟨.null⟩

namespace Ty

/-- The type of a value that may be absent; one layer is enough. -/
def orAbsent : Ty → Ty
  | optional inner => optional inner
  | t => optional t

def isOptional : Ty → Bool
  | optional _ => true
  | _ => false

/-- The type without its outermost optional layer. -/
def present : Ty → Ty
  | optional inner => inner
  | t => t

def isPrimitive : Ty → Bool
  | int | float | string | bool => true
  | _ => false

def name? : Ty → Option String
  | named name => some name
  | provider name => some name
  | generic name _ => some name
  | _ => none

@[simp] theorem isOptional_orAbsent (t : Ty) : t.orAbsent.isOptional = true := by
  cases t <;> rfl

@[simp] theorem orAbsent_orAbsent (t : Ty) : t.orAbsent.orAbsent = t.orAbsent := by
  cases t <;> rfl

end Ty

def Expr.ofLiteral : Literal → Expr
  | .int n => .int n
  | .float x => .float x
  | .string s => .string s
  | .bool b => .bool b
  | .null => .null

namespace Expr

def isLiteral : Expr → Bool
  | int _ | float _ | string _ | bool _ | null => true
  | _ => false

end Expr

namespace Stmt

/-- The statement that does nothing. -/
def noop : Stmt := .expr .null

def isNoop : Stmt → Bool
  | .expr .null => true
  | _ => false

/-- Whether control never passes to the statement behind this one. -/
def isTerminal : Stmt → Bool
  | .ret _ | .breakLoop | .continueLoop => true
  | _ => false

end Stmt

namespace Field

/-- A required field without default. -/
def of (name : String) (type : Ty) : Field := ⟨name, type, true, none, []⟩

/-- The type that a reader of the record sees: a field that may be absent is optional. -/
def effectiveType (f : Field) : Ty := if f.required then f.type else f.type.orAbsent

/-- Whether the value may be absent, by its type or because it is not required. -/
def mayBeAbsent (f : Field) : Bool := !f.required || f.type.isOptional

def presentType (f : Field) : Ty := f.type.present

end Field

def PatternField.binds (f : PatternField) : Bool := f.pattern.isNone

end ServiceCompiler.Core
