import ServiceCompiler.Json.Value
import ServiceCompiler.Surface.Conform

/-! # Writing programs as documents

A program becomes the content of its document, and the content becomes the document by the layout:
a record is an object with all its fields in order, and a node has its kind in front of them. -/

namespace ServiceCompiler.Surface

def literalJson : Literal → Json
  | .int n => .object [("type", .string "int"), ("value", .number (.integer n.toInt))]
  | .float x => .object [("type", .string "float"), ("value", .number (.real x))]
  | .string s => .object [("type", .string "string"), ("value", .string s)]
  | .bool b => .object [("type", .string "bool"), ("value", .bool b)]
  | .null => .object [("type", .string "null")]

mutual

def Datum.toJson : Datum → Json
  | .text s => .string s
  | .flag b => .bool b
  | .count n => .number (.integer n.toNat)
  | .method m => .string m.name
  | .stream m => .string m.name
  | .operation o => .string o.name
  | .event e => .string e.name
  | .binary op => .string op.name
  | .unary op => .string op.name
  | .literal l => literalJson l
  | .absent => .null
  | .list items => .array (Datum.listJson items)
  | .record r fields => .object (Datum.memberJson (r.layout.fields.map (·.name)) fields)
  | .node kind fields =>
    .object (("kind", .string kind.tag) :: Datum.memberJson (kind.layout.fields.map (·.name)) fields)

def Datum.listJson : List Datum → List Json
  | [] => []
  | d :: ds => d.toJson :: Datum.listJson ds

/-- The fields under their names. -/
def Datum.memberJson : List String → List Datum → List (String × Json)
  | name :: names, d :: ds => (name, d.toJson) :: Datum.memberJson names ds
  | _, _ => []

end

def optionDatum {α : Type} (f : α → Datum) : Option α → Datum
  | none => .absent
  | some a => f a

def textDatum : Option String → Datum := optionDatum .text

def textsDatum (ss : List String) : Datum := .list (ss.map .text)

mutual

def Ty.toDatum : Ty → Datum
  | .int => .node (.ty .int) []
  | .float => .node (.ty .float) []
  | .string => .node (.ty .string) []
  | .bool => .node (.ty .bool) []
  | .array element => .node (.ty .array) [element.toDatum]
  | .optional inner => .node (.ty .optional) [inner.toDatum]
  | .named name => .node (.ty .named) [.text name]
  | .database => .node (.ty .database) []
  | .redis => .node (.ty .redis) []
  | .mongoDb => .node (.ty .mongoDb) []
  | .llm => .node (.ty .llm) []
  | .union types => .node (.ty .union) [.list (Ty.listDatum types)]
  | .generic base args => .node (.ty .generic) [base.toDatum, .list (Ty.listDatum args)]
  | .function params result =>
    .node (.ty .function) [.list (Ty.listDatum params), Ty.optionDatum result]
  | .future result => .node (.ty .future) [result.toDatum]
  | .typeParam name => .node (.ty .typeParam) [.text name]
  | .unsupported => .node (.ty .unsupported) []

def Ty.listDatum : List Ty → List Datum
  | [] => []
  | t :: ts => t.toDatum :: Ty.listDatum ts

def Ty.optionDatum : Option Ty → Datum
  | none => .absent
  | some t => t.toDatum

end

mutual

def Pattern.toDatum : Pattern → Datum
  | .literal value => .node (.pattern .literal) [.literal value]
  | .variable name => .node (.pattern .variable) [.text name]
  | .wildcard => .node (.pattern .wildcard) []
  | .object fields => .node (.pattern .object) [.list (Pattern.fieldsDatum fields)]
  | .array elements rest =>
    .node (.pattern .array) [.list (Pattern.listDatum elements), textDatum rest]
  | .unsupported => .node (.pattern .unsupported) []

def Pattern.listDatum : List Pattern → List Datum
  | [] => []
  | p :: ps => p.toDatum :: Pattern.listDatum ps

def Pattern.fieldsDatum : List PatternField → List Datum
  | [] => []
  | ⟨key, pattern⟩ :: fs =>
    .record .patternField [.text key, Pattern.optionDatum pattern] :: Pattern.fieldsDatum fs

def Pattern.optionDatum : Option Pattern → Datum
  | none => .absent
  | some p => p.toDatum

end

def Decorator.toDatum (d : Decorator) : Datum :=
  .record .decorator [.text d.name, .list (d.params.map .literal)]

mutual

def Expr.toDatum : Expr → Datum
  | .literal value => .node (.expr .literal) [.literal value]
  | .var name => .node (.expr .var) [.text name]
  | .binary op left right => .node (.expr .binary) [.binary op, left.toDatum, right.toDatum]
  | .unary op operand => .node (.expr .unary) [.unary op, operand.toDatum]
  | .field object field => .node (.expr .field) [object.toDatum, .text field]
  | .index object index => .node (.expr .index) [object.toDatum, index.toDatum]
  | .call name typeArgs args =>
    .node (.expr .call) [.text name, .list (Ty.listDatum typeArgs), .list (Expr.listDatum args)]
  | .object fields => .node (.expr .object) [.list (Expr.fieldsDatum fields)]
  | .array elements => .node (.expr .array) [.list (Expr.listDatum elements)]
  | .lambda params body block =>
    .node (.expr .lambda)
      [.list (Field.listDatum params), Expr.optionDatum body, .list (Stmt.listDatum block)]
  | .pipe left right => .node (.expr .pipe) [left.toDatum, right.toDatum]
  | .matchOn value cases => .node (.expr .matchOn) [value.toDatum, .list (Expr.casesDatum cases)]
  | .async body => .node (.expr .async) [.list (Stmt.listDatum body)]
  | .await expr => .node (.expr .await) [expr.toDatum]
  | .quote body => .node (.expr .quote) [.list (Stmt.listDatum body)]
  | .unquote expr => .node (.expr .unquote) [expr.toDatum]
  | .unsupported => .node (.expr .unsupported) []

def Expr.listDatum : List Expr → List Datum
  | [] => []
  | e :: es => e.toDatum :: Expr.listDatum es

def Expr.optionDatum : Option Expr → Datum
  | none => .absent
  | some e => e.toDatum

def Expr.fieldsDatum : List ObjectField → List Datum
  | [] => []
  | ⟨key, value⟩ :: fs => .record .objectField [.text key, value.toDatum] :: Expr.fieldsDatum fs

def Expr.casesDatum : List MatchCase → List Datum
  | [] => []
  | ⟨pattern, guard, body⟩ :: cs =>
    .record .matchCase [pattern.toDatum, Expr.optionDatum guard, body.toDatum] :: Expr.casesDatum cs

def Field.listDatum : List Field → List Datum
  | [] => []
  | ⟨name, type, required, default, decorators⟩ :: fs =>
    .record .field
      [.text name, Ty.optionDatum type, .flag required, Expr.optionDatum default,
        .list (decorators.map Decorator.toDatum)] :: Field.listDatum fs

def Stmt.toDatum : Stmt → Datum
  | .assign target value => .node (.stmt .assign) [.text target, value.toDatum]
  | .reassign target value => .node (.stmt .reassign) [.text target, value.toDatum]
  | .ret value => .node (.stmt .ret) [Expr.optionDatum value]
  | .cond condition thenBlock elseBlock =>
    .node (.stmt .cond)
      [condition.toDatum, .list (Stmt.listDatum thenBlock), .list (Stmt.listDatum elseBlock)]
  | .forEach key value iterable body =>
    .node (.stmt .forEach)
      [textDatum key, .text value, iterable.toDatum, .list (Stmt.listDatum body)]
  | .whileLoop condition body =>
    .node (.stmt .whileLoop) [condition.toDatum, .list (Stmt.listDatum body)]
  | .switch value cases otherwise =>
    .node (.stmt .switch)
      [value.toDatum, .list (Stmt.casesDatum cases), .list (Stmt.listDatum otherwise)]
  | .expr expr => .node (.stmt .expr) [expr.toDatum]
  | .validate call => .node (.stmt .validate) [call.toDatum]
  | .breakLoop => .node (.stmt .breakLoop) []
  | .continueLoop => .node (.stmt .continueLoop) []
  | .dbQuery query params => .node (.stmt .dbQuery) [.text query, .list (Expr.listDatum params)]
  | .wsSend client message => .node (.stmt .wsSend) [client.toDatum, message.toDatum]
  | .wsBroadcast message room =>
    .node (.stmt .wsBroadcast) [message.toDatum, Expr.optionDatum room]
  | .wsClose reason => .node (.stmt .wsClose) [Expr.optionDatum reason]
  | .macroInvocation name args =>
    .node (.stmt .macroInvocation) [.text name, .list (Expr.listDatum args)]
  | .unsupported => .node (.stmt .unsupported) []

def Stmt.listDatum : List Stmt → List Datum
  | [] => []
  | s :: ss => s.toDatum :: Stmt.listDatum ss

def Stmt.casesDatum : List SwitchCase → List Datum
  | [] => []
  | ⟨value, body⟩ :: cs =>
    .record .switchCase [value.toDatum, .list (Stmt.listDatum body)] :: Stmt.casesDatum cs

end

def fieldsDatum (fs : List Field) : Datum := .list (Field.listDatum fs)

def bodyDatum (ss : List Stmt) : Datum := .list (Stmt.listDatum ss)

def Method.toDatum (m : Method) : Datum :=
  .record .method [.text m.name, fieldsDatum m.params, Ty.optionDatum m.result, bodyDatum m.body]

def Auth.toDatum (a : Auth) : Datum :=
  .record .auth [.text a.scheme, .flag a.required, textsDatum a.roles]

def RateLimit.toDatum (r : RateLimit) : Datum :=
  .record .rateLimit [.count r.requests, .text r.window]

def Middleware.toDatum (m : Middleware) : Datum :=
  .record .middleware [.text m.name, .list (Expr.listDatum m.args)]

def Injection.toDatum (i : Injection) : Datum :=
  .record .injection [.text i.name, Ty.optionDatum i.type]

def QueryParam.toDatum (q : QueryParam) : Datum :=
  .record .queryParam
    [.text q.name, Ty.optionDatum q.type, .flag q.required, Expr.optionDatum q.default,
      .flag q.isArray]

def CommandParam.toDatum (p : CommandParam) : Datum :=
  .record .commandParam
    [.text p.name, Ty.optionDatum p.type, .flag p.required, Expr.optionDatum p.default,
      .flag p.isFlag]

def RpcMethod.toDatum (m : RpcMethod) : Datum :=
  .record .rpcMethod [.text m.name, Ty.optionDatum m.input, Ty.optionDatum m.result, .stream m.stream]

def SocketHandler.toDatum (h : SocketHandler) : Datum :=
  .record .socketHandler [.event h.event, bodyDatum h.body]

def ContractMethod.toDatum (m : ContractMethod) : Datum :=
  .record .contractMethod [.text m.name, fieldsDatum m.params, Ty.optionDatum m.result]

def injectionsDatum (is : List Injection) : Datum := .list (is.map Injection.toDatum)

def Item.toDatum : Item → Datum
  | .moduleName name => .node (.item .moduleName) [.text name]
  | .importing path shortName => .node (.item .importing) [.text path, textDatum shortName]
  | .typeDecl d =>
    .node (.item .typeDecl)
      [.text d.name, textsDatum d.typeParams, textsDatum d.traits, fieldsDatum d.fields,
        .list (d.methods.map Method.toDatum)]
  | .route r =>
    .node (.item .route)
      [.method r.method, .text r.path, Ty.optionDatum r.input, Ty.optionDatum r.result,
        optionDatum Auth.toDatum r.auth, optionDatum RateLimit.toDatum r.rateLimit,
        .list (r.middleware.map Middleware.toDatum), injectionsDatum r.injections,
        .list (r.query.map QueryParam.toDatum), bodyDatum r.body]
  | .function f =>
    .node (.item .function)
      [.text f.name, textsDatum f.typeParams, fieldsDatum f.params, Ty.optionDatum f.result,
        bodyDatum f.body]
  | .cron j =>
    .node (.item .cron)
      [.text j.name, .text j.schedule, textDatum j.timezone, .count j.retries,
        injectionsDatum j.injections, bodyDatum j.body]
  | .event h =>
    .node (.item .event)
      [.text h.event, .flag h.isAsync, injectionsDatum h.injections, bodyDatum h.body]
  | .queue w =>
    .node (.item .queue)
      [.text w.queue, .count w.concurrency, .count w.maxRetries, .count w.timeout,
        injectionsDatum w.injections, bodyDatum w.body]
  | .command c =>
    .node (.item .command)
      [.text c.name, .text c.description, .list (c.params.map CommandParam.toDatum),
        Ty.optionDatum c.result, bodyDatum c.body]
  | .rpcService s => .node (.item .rpcService) [.text s.name, .list (s.methods.map RpcMethod.toDatum)]
  | .rpcHandler h =>
    .node (.item .rpcHandler)
      [.text h.service, .text h.method, fieldsDatum h.params, Ty.optionDatum h.result,
        .stream h.stream, optionDatum Auth.toDatum h.auth, injectionsDatum h.injections,
        bodyDatum h.body]
  | .resolver r =>
    .node (.item .resolver)
      [.operation r.operation, .text r.field, fieldsDatum r.params, Ty.optionDatum r.result,
        optionDatum Auth.toDatum r.auth, injectionsDatum r.injections, bodyDatum r.body]
  | .socket r => .node (.item .socket) [.text r.path, .list (r.handlers.map SocketHandler.toDatum)]
  | .constant c =>
    .node (.item .constant) [.text c.name, Ty.optionDatum c.type, Expr.optionDatum c.value]
  | .contract c => .node (.item .contract) [.text c.name, .list (c.methods.map ContractMethod.toDatum)]
  | .test name body => .node (.item .test) [.text name, bodyDatum body]
  | .macroDecl name params body =>
    .node (.item .macroDecl) [.text name, textsDatum params, bodyDatum body]
  | .traitDecl name methods =>
    .node (.item .traitDecl) [.text name, .list (methods.map ContractMethod.toDatum)]
  | .staticRoute path dir => .node (.item .staticRoute) [.text path, .text dir]
  | .unsupported => .node (.item .unsupported) []

def Program.toJson (p : Program) : Json :=
  .object [("items", .array (p.items.map fun item => item.toDatum.toJson))]

end ServiceCompiler.Surface
