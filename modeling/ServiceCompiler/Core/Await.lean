import ServiceCompiler.Core.Tree

/-! # Awaiting

Whether running an expression or a statement awaits. Lambdas and async blocks run on their own, so
what they await does not count. -/

namespace ServiceCompiler.Core

mutual

def Expr.awaits : Expr → Bool
  | .await _ => true
  | .binary _ left right => left.awaits || right.awaits
  | .pipe left right => left.awaits || right.awaits
  | .unary _ operand => operand.awaits
  | .field target _ => target.awaits
  | .index target position => target.awaits || position.awaits
  | .call _ _ args => Expr.anyAwaits args
  | .object fields => Expr.fieldsAwait fields
  | .array elements => Expr.anyAwaits elements
  | .matchOn value cases => value.awaits || Expr.casesAwait cases
  | .lambda _ _ | .async _ | .int _ | .float _ | .string _ | .bool _ | .null | .var _ => false

def Expr.anyAwaits : List Expr → Bool
  | [] => false
  | e :: es => e.awaits || Expr.anyAwaits es

def Expr.optionAwaits : Option Expr → Bool
  | none => false
  | some e => e.awaits

def Expr.fieldsAwait : List ObjectField → Bool
  | [] => false
  | ⟨_, value⟩ :: fs => value.awaits || Expr.fieldsAwait fs

def Expr.casesAwait : List MatchCase → Bool
  | [] => false
  | ⟨_, guard, body⟩ :: cs => body.awaits || Expr.optionAwaits guard || Expr.casesAwait cs

end

mutual

def Stmt.awaits : Stmt → Bool
  | .assign _ value | .reassign _ value | .ret value | .expr value | .validate value => value.awaits
  | .cond condition thenBody elseBody =>
    condition.awaits || Stmt.bodyAwaits thenBody || Stmt.bodyAwaits elseBody
  | .forEach _ _ iterable body => iterable.awaits || Stmt.bodyAwaits body
  | .whileLoop condition body => condition.awaits || Stmt.bodyAwaits body
  | .switch value cases otherwise =>
    value.awaits || Stmt.casesAwait cases || Stmt.bodyAwaits otherwise
  | .breakLoop | .continueLoop => false

def Stmt.bodyAwaits : List Stmt → Bool
  | [] => false
  | s :: ss => s.awaits || Stmt.bodyAwaits ss

def Stmt.casesAwait : List SwitchCase → Bool
  | [] => false
  | ⟨value, body⟩ :: cs => value.awaits || Stmt.bodyAwaits body || Stmt.casesAwait cs

end

end ServiceCompiler.Core
