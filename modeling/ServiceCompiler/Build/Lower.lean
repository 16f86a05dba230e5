import ServiceCompiler.Build.Cause
import ServiceCompiler.Core.Dump
import ServiceCompiler.Core.Service
import ServiceCompiler.Surface.Tree

/-! # Types and bodies in the core language

A type in a signature has to be well named. Bodies always have a meaning: a type without a name
becomes `any`, and what is not understood becomes `null`, `_` or a statement that does nothing. -/

namespace ServiceCompiler.Build

open ServiceCompiler.Core (StandardProvider)

mutual

def lowerTy : Surface.Ty → Except Cause Core.Ty
  | .int => .ok .int
  | .float => .ok .float
  | .string => .ok .string
  | .bool => .ok .bool
  | .array element => do return .array (← lowerTy element)
  | .optional inner => do return (← lowerTy inner).orAbsent
  | .named name => if name.isEmpty then .error .emptyTypeName else .ok (.named name)
  | .typeParam name => if name.isEmpty then .error .emptyTypeName else .ok (.named name)
  | .database => .ok (.provider StandardProvider.database.typeName)
  | .redis => .ok (.provider StandardProvider.redis.typeName)
  | .mongoDb => .ok (.provider StandardProvider.mongoDb.typeName)
  | .llm => .ok (.provider StandardProvider.llm.typeName)
  | .union types => do return .union (← lowerTys types)
  | .generic base args => do
    let base ← lowerTy base
    return .generic (base.name?.getD base.display) (← lowerTys args)
  | .function params result => do
    let params ← lowerTys params
    return .function params (← lowerResult result)
  | .future result => do return .future (← lowerTy result)
  | .unsupported => .ok .any

def lowerTys : List Surface.Ty → Except Cause (List Core.Ty)
  | [] => .ok []
  | t :: ts => do
    let t ← lowerTy t
    return t :: (← lowerTys ts)

def lowerResult : Option Surface.Ty → Except Cause Core.Ty
  | none => .ok .any
  | some t => lowerTy t

end

/-- A type in a body; without a proper name it may be anything. -/
def lowerBodyTy (t : Surface.Ty) : Core.Ty :=
  match lowerTy t with
  | .ok t => t
  | .error _ => .any

mutual

def lowerPattern : Surface.Pattern → Core.Pattern
  | .literal value => .literal value
  | .variable name => .variable name
  | .wildcard => .wildcard
  | .object fields => .object (lowerPatternFields fields)
  | .array elements rest => .array (lowerPatterns elements) rest
  | .unsupported => .wildcard

def lowerPatterns : List Surface.Pattern → List Core.Pattern
  | [] => []
  | p :: ps => lowerPattern p :: lowerPatterns ps

def lowerPatternFields : List Surface.PatternField → List Core.PatternField
  | [] => []
  | ⟨key, none⟩ :: fs => ⟨key, none⟩ :: lowerPatternFields fs
  | ⟨key, some p⟩ :: fs => ⟨key, some (lowerPattern p)⟩ :: lowerPatternFields fs

end

def lowerDecorator (d : Surface.Decorator) : Core.Decorator := ⟨d.name, d.params⟩

mutual

def lowerExpr : Surface.Expr → Core.Expr
  | .literal value => .ofLiteral value
  | .var name => .var name
  | .binary op left right => .binary op (lowerExpr left) (lowerExpr right)
  | .unary op operand => .unary op (lowerExpr operand)
  | .field object field => .field (lowerExpr object) field
  | .index object index => .index (lowerExpr object) (lowerExpr index)
  | .call name typeArgs args => .call name (typeArgs.map lowerBodyTy) (lowerExprs args)
  | .object fields => .object (lowerObjectFields fields)
  | .array elements => .array (lowerExprs elements)
  | .lambda params (some body) _ => .lambda (lowerParams params) (.expr (lowerExpr body))
  | .lambda params none block => .lambda (lowerParams params) (.block (lowerBody block))
  | .pipe left right => .pipe (lowerExpr left) (lowerExpr right)
  | .matchOn value cases => .matchOn (lowerExpr value) (lowerMatchCases cases)
  | .async body => .async (lowerBody body)
  | .await expr => .await (lowerExpr expr)
  | .quote _ | .unquote _ | .unsupported => .null

def lowerExprs : List Surface.Expr → List Core.Expr
  | [] => []
  | e :: es => lowerExpr e :: lowerExprs es

def lowerExpr? : Option Surface.Expr → Option Core.Expr
  | none => none
  | some e => some (lowerExpr e)

def lowerObjectFields : List Surface.ObjectField → List Core.ObjectField
  | [] => []
  | ⟨key, value⟩ :: fs => ⟨key, lowerExpr value⟩ :: lowerObjectFields fs

def lowerMatchCases : List Surface.MatchCase → List Core.MatchCase
  | [] => []
  | ⟨pattern, guard, body⟩ :: cs =>
    ⟨lowerPattern pattern, lowerExpr? guard, lowerExpr body⟩ :: lowerMatchCases cs

/-- The parameters of a lambda. -/
def lowerParams : List Surface.Field → List Core.Field
  | [] => []
  | ⟨name, type, required, default, decorators⟩ :: fs =>
    ⟨name, (type.map lowerBodyTy).getD .any, required, lowerExpr? default,
      decorators.map lowerDecorator⟩ :: lowerParams fs

def lowerStmt : Surface.Stmt → Core.Stmt
  | .assign target value => .assign target (lowerExpr value)
  | .reassign target value => .reassign target (lowerExpr value)
  | .ret value => .ret ((lowerExpr? value).getD .null)
  | .cond condition thenBlock elseBlock =>
    .cond (lowerExpr condition) (lowerBody thenBlock) (lowerBody elseBlock)
  | .forEach key value iterable body => .forEach key value (lowerExpr iterable) (lowerBody body)
  | .whileLoop condition body => .whileLoop (lowerExpr condition) (lowerBody body)
  | .switch value cases otherwise =>
    .switch (lowerExpr value) (lowerSwitchCases cases) (lowerBody otherwise)
  | .expr e => .expr (lowerExpr e)
  | .validate call => .validate (lowerExpr call)
  | .breakLoop => .breakLoop
  | .continueLoop => .continueLoop
  | .dbQuery _ _ | .wsSend _ _ | .wsBroadcast _ _ | .wsClose _ | .macroInvocation _ _
  | .unsupported => .noop

def lowerBody : List Surface.Stmt → List Core.Stmt
  | [] => []
  | s :: ss => lowerStmt s :: lowerBody ss

def lowerSwitchCases : List Surface.SwitchCase → List Core.SwitchCase
  | [] => []
  | ⟨value, body⟩ :: cs => ⟨lowerExpr value, lowerBody body⟩ :: lowerSwitchCases cs

end

end ServiceCompiler.Build
