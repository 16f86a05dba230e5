import ServiceCompiler.Core.Tree

/-! # Calls and pipes -/

namespace ServiceCompiler.Plan

open ServiceCompiler.Core (Expr)

/-- A call is written `receiver.name(args)` or `name(args)`. -/
inductive CallShape
  | method (receiver : Expr) (name : String) (args : List Expr)
  | function (name : String) (args : List Expr)

def isReceiver : Expr → Bool
  | .var _ | .field _ _ => true
  | _ => false

/-- A call is one of a method if its name is simple and its first argument is a variable or a
field. -/
def classify (name : String) (args : List Expr) : CallShape :=
  match args with
  | receiver :: rest =>
    if isReceiver receiver && !name.toList.contains '.' then .method receiver name rest
    else .function name args
  | [] => .function name args

/-- `a.b.c` for a variable and the fields behind it. -/
def dottedName : Expr → Option String
  | .var name => some name
  | .field target name => (dottedName target).map fun base => s!"{base}.{name}"
  | _ => none

/-- What a pipe does with its left side. -/
inductive PipeCall
  /-- A call of a function, never of a method. -/
  | call (name : String) (args : List Expr)
  | apply (callee arg : Expr)

/-- `a |> f` is `f(a)` and `a |> f(b)` is `f(a, b)`; what has no name is applied. -/
def pipeCall (left right : Expr) : PipeCall :=
  match right with
  | .call name _ args => .call name (left :: args)
  | other =>
    match dottedName other with
    | some name => .call name [left]
    | none => .apply right left

end ServiceCompiler.Plan
