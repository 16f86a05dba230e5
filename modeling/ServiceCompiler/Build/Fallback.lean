import ServiceCompiler.Build.Lower
import ServiceCompiler.Surface.Keyword

/-! # Warnings about fallbacks

Every place of a body or a signature at which something had to be replaced, in reading order. What
is replaced as a whole is not looked into. -/

namespace ServiceCompiler.Build

structure Fallback where
  code : Code
  message : String
  deriving DecidableEq, Repr

namespace Fallback

def statement (keyword : String) : Fallback :=
  ⟨.unsupportedStatement, s!"`{keyword}` statement replaced with a no-op"⟩

def expression (keyword : String) : Fallback :=
  ⟨.unsupportedExpression, s!"`{keyword}` expression replaced with null"⟩

def pattern : Fallback := ⟨.unsupportedPattern, "unrecognized pattern replaced with `_`"⟩

def type : Fallback := ⟨.unsupportedType, "unrecognized type replaced with `any`"⟩

def namelessType : Fallback :=
  ⟨.unsupportedType, s!"{Cause.emptyTypeName.message}; replaced with `any`"⟩

def item : Fallback := ⟨.unsupportedItem, "unrecognized declaration skipped"⟩

def diagnostic (scope : Option (Place × String)) (f : Fallback) : Diagnostic :=
  ⟨.warning, some f.code, f.message, (scope.map fun s => s!"{s.1.name} {s.2}").toList, [], []⟩

end Fallback

/-- A part of a type that has no meaning. -/
inductive TyMark
  | unknown
  | nameless
  deriving DecidableEq, Repr

def nameMarks (name : String) : List TyMark := if name.isEmpty then [.nameless] else []

mutual

/-- The parts of a type without a meaning, from left to right. -/
def tyMarks : Surface.Ty → List TyMark
  | .int | .float | .string | .bool | .database | .redis | .mongoDb | .llm => []
  | .array element => tyMarks element
  | .optional inner => tyMarks inner
  | .named name => nameMarks name
  | .typeParam name => nameMarks name
  | .union types => tysMarks types
  | .generic base args => tyMarks base ++ tysMarks args
  | .function params result => tysMarks params ++ resultMarks result
  | .future result => tyMarks result
  | .unsupported => [.unknown]

def tysMarks : List Surface.Ty → List TyMark
  | [] => []
  | t :: ts => tyMarks t ++ tysMarks ts

def resultMarks : Option Surface.Ty → List TyMark
  | none => []
  | some t => tyMarks t

end

/-- The warnings about a type in a signature: one for each unknown part in front of the first part
without a name. -/
def tyFallbacks (t : Surface.Ty) : List Fallback :=
  ((tyMarks t).takeWhile (· == .unknown)).map fun _ => .type

def tyFallbacks? (t : Option Surface.Ty) : List Fallback := t.toList.flatMap tyFallbacks

/-- The warnings about a type in a body: one more if a part has no name. -/
def bodyTyFallbacks (t : Surface.Ty) : List Fallback :=
  tyFallbacks t ++ if (tyMarks t).contains .nameless then [.namelessType] else []

mutual

def patternFallbacks : Surface.Pattern → List Fallback
  | .literal _ | .variable _ | .wildcard => []
  | .object fields => patternFieldFallbacks fields
  | .array elements _ => patternsFallbacks elements
  | .unsupported => [.pattern]

def patternsFallbacks : List Surface.Pattern → List Fallback
  | [] => []
  | p :: ps => patternFallbacks p ++ patternsFallbacks ps

def patternFieldFallbacks : List Surface.PatternField → List Fallback
  | [] => []
  | ⟨_, none⟩ :: fs => patternFieldFallbacks fs
  | ⟨_, some p⟩ :: fs => patternFallbacks p ++ patternFieldFallbacks fs

end

mutual

def exprFallbacks : Surface.Expr → List Fallback
  | .literal _ | .var _ => []
  | .binary _ left right => exprFallbacks left ++ exprFallbacks right
  | .unary _ operand => exprFallbacks operand
  | .field object _ => exprFallbacks object
  | .index object index => exprFallbacks object ++ exprFallbacks index
  | .call _ typeArgs args => typeArgs.flatMap bodyTyFallbacks ++ exprsFallbacks args
  | .object fields => objectFallbacks fields
  | .array elements => exprsFallbacks elements
  | .lambda params (some body) _ => paramFallbacks params ++ exprFallbacks body
  | .lambda params none block => paramFallbacks params ++ bodyFallbacks block
  | .pipe left right => exprFallbacks left ++ exprFallbacks right
  | .matchOn value cases => exprFallbacks value ++ matchFallbacks cases
  | .async body => bodyFallbacks body
  | .await expr => exprFallbacks expr
  | .quote _ => [.expression Surface.ExprKind.quote.tag]
  | .unquote _ => [.expression Surface.ExprKind.unquote.tag]
  | .unsupported => [.expression Surface.ExprKind.unsupported.tag]

def exprsFallbacks : List Surface.Expr → List Fallback
  | [] => []
  | e :: es => exprFallbacks e ++ exprsFallbacks es

def exprFallbacks? : Option Surface.Expr → List Fallback
  | none => []
  | some e => exprFallbacks e

def objectFallbacks : List Surface.ObjectField → List Fallback
  | [] => []
  | ⟨_, value⟩ :: fs => exprFallbacks value ++ objectFallbacks fs

def matchFallbacks : List Surface.MatchCase → List Fallback
  | [] => []
  | ⟨pattern, guard, body⟩ :: cs =>
    patternFallbacks pattern ++ exprFallbacks? guard ++ exprFallbacks body ++ matchFallbacks cs

/-- The warnings about the parameters of a lambda. -/
def paramFallbacks : List Surface.Field → List Fallback
  | [] => []
  | ⟨_, type, _, default, _⟩ :: fs =>
    type.toList.flatMap bodyTyFallbacks ++ exprFallbacks? default ++ paramFallbacks fs

def stmtFallbacks : Surface.Stmt → List Fallback
  | .assign _ value | .reassign _ value | .expr value | .validate value => exprFallbacks value
  | .ret value => exprFallbacks? value
  | .cond condition thenBlock elseBlock =>
    exprFallbacks condition ++ bodyFallbacks thenBlock ++ bodyFallbacks elseBlock
  | .forEach _ _ iterable body => exprFallbacks iterable ++ bodyFallbacks body
  | .whileLoop condition body => exprFallbacks condition ++ bodyFallbacks body
  | .switch value cases otherwise =>
    exprFallbacks value ++ switchFallbacks cases ++ bodyFallbacks otherwise
  | .breakLoop | .continueLoop => []
  | .dbQuery _ _ => [.statement Surface.StmtKind.dbQuery.tag]
  | .wsSend _ _ => [.statement Surface.StmtKind.wsSend.tag]
  | .wsBroadcast _ _ => [.statement Surface.StmtKind.wsBroadcast.tag]
  | .wsClose _ => [.statement Surface.StmtKind.wsClose.tag]
  | .macroInvocation _ _ => [.statement Surface.StmtKind.macroInvocation.tag]
  | .unsupported => [.statement Surface.StmtKind.unsupported.tag]

def bodyFallbacks : List Surface.Stmt → List Fallback
  | [] => []
  | s :: ss => stmtFallbacks s ++ bodyFallbacks ss

def switchFallbacks : List Surface.SwitchCase → List Fallback
  | [] => []
  | ⟨value, body⟩ :: cs => exprFallbacks value ++ bodyFallbacks body ++ switchFallbacks cs

end

def fieldFallbacks (fs : List Surface.Field) : List Fallback :=
  fs.flatMap fun f => tyFallbacks? f.type ++ exprFallbacks? f.default

def declarationFallbacks : Surface.Item → List Fallback
  | .typeDecl d =>
    fieldFallbacks d.fields ++
      d.methods.flatMap fun m =>
        fieldFallbacks m.params ++ tyFallbacks? m.result ++ bodyFallbacks m.body
  | .contract c => c.methods.flatMap fun m => fieldFallbacks m.params ++ tyFallbacks? m.result
  | _ => []

/-- The warnings about a binding, and about a declaration that is not understood. -/
def bindingFallbacks : Surface.Item → List Fallback
  | .route r =>
    tyFallbacks? r.input ++ tyFallbacks? r.result ++
      (r.query.flatMap fun q => tyFallbacks? q.type ++ exprFallbacks? q.default) ++
      (r.middleware.flatMap fun m => exprsFallbacks m.args) ++ bodyFallbacks r.body
  | .function f => fieldFallbacks f.params ++ tyFallbacks? f.result ++ bodyFallbacks f.body
  | .cron j => bodyFallbacks j.body
  | .event h => bodyFallbacks h.body
  | .queue w => bodyFallbacks w.body
  | .command c =>
    (c.params.flatMap fun p => tyFallbacks? p.type ++ exprFallbacks? p.default) ++
      tyFallbacks? c.result ++ bodyFallbacks c.body
  | .rpcService s => s.methods.flatMap fun m => tyFallbacks? m.input ++ tyFallbacks? m.result
  | .rpcHandler h => fieldFallbacks h.params ++ tyFallbacks? h.result ++ bodyFallbacks h.body
  | .resolver r => fieldFallbacks r.params ++ tyFallbacks? r.result ++ bodyFallbacks r.body
  | .socket r => r.handlers.flatMap fun h => bodyFallbacks h.body
  | .constant c => tyFallbacks? c.type ++ exprFallbacks? c.value
  | .unsupported => [.item]
  | _ => []

end ServiceCompiler.Build
