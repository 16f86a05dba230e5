import ServiceCompiler.Surface.Layout

/-! # Programs from the content of their documents

Content that fits its layout is taken apart field by field. A node of any other form is
unsupported. -/

namespace ServiceCompiler.Surface

namespace Datum

def toText : Datum → String
  | .text s => s
  | _ => ""

def toText? : Datum → Option String
  | .text s => some s
  | _ => none

def toFlag : Datum → Bool
  | .flag b => b
  | _ => false

def toCount : Datum → UInt32
  | .count n => n
  | _ => 0

def toLiteral : Datum → Literal
  | .literal l => l
  | _ => .null

def toMethod : Datum → HttpMethod
  | .method m => m
  | _ => .get

def toStream : Datum → StreamMode
  | .stream m => m
  | _ => .unary

def toOperation : Datum → Operation
  | .operation o => o
  | _ => .query

def toEvent : Datum → SocketEvent
  | .event e => e
  | _ => .message

/-- The elements of a list. -/
def toList {α : Type} (f : Datum → α) : Datum → List α
  | .list ds => ds.map f
  | _ => []

/-- A field that may be absent. -/
def toOption {α : Type} (f : Datum → α) : Datum → Option α
  | .absent => none
  | d => some (f d)

def toTexts : Datum → List String := toList toText

end Datum

mutual

def Ty.ofDatum : Datum → Ty
  | .node (.ty .int) _ => .int
  | .node (.ty .float) _ => .float
  | .node (.ty .string) _ => .string
  | .node (.ty .bool) _ => .bool
  | .node (.ty .array) [element] => .array (Ty.ofDatum element)
  | .node (.ty .optional) [inner] => .optional (Ty.ofDatum inner)
  | .node (.ty .named) [name] => .named name.toText
  | .node (.ty .database) _ => .database
  | .node (.ty .redis) _ => .redis
  | .node (.ty .mongoDb) _ => .mongoDb
  | .node (.ty .llm) _ => .llm
  | .node (.ty .union) [.list types] => .union (Ty.ofList types)
  | .node (.ty .generic) [base, .list args] => .generic (Ty.ofDatum base) (Ty.ofList args)
  | .node (.ty .function) [.list params, .absent] => .function (Ty.ofList params) none
  | .node (.ty .function) [.list params, result] =>
    .function (Ty.ofList params) (some (Ty.ofDatum result))
  | .node (.ty .future) [result] => .future (Ty.ofDatum result)
  | .node (.ty .typeParam) [name] => .typeParam name.toText
  | _ => .unsupported

def Ty.ofList : List Datum → List Ty
  | [] => []
  | d :: ds => Ty.ofDatum d :: Ty.ofList ds

end

mutual

def Pattern.ofDatum : Datum → Pattern
  | .node (.pattern .literal) [value] => .literal value.toLiteral
  | .node (.pattern .variable) [name] => .variable name.toText
  | .node (.pattern .wildcard) _ => .wildcard
  | .node (.pattern .object) [.list fields] => .object (Pattern.fieldsOf fields)
  | .node (.pattern .array) [.list elements, rest] => .array (Pattern.ofList elements) rest.toText?
  | _ => .unsupported

def Pattern.ofList : List Datum → List Pattern
  | [] => []
  | d :: ds => Pattern.ofDatum d :: Pattern.ofList ds

def Pattern.fieldsOf : List Datum → List PatternField
  | [] => []
  | .record _ [key, .absent] :: ds => ⟨key.toText, none⟩ :: Pattern.fieldsOf ds
  | .record _ [key, pattern] :: ds =>
    ⟨key.toText, some (Pattern.ofDatum pattern)⟩ :: Pattern.fieldsOf ds
  | _ :: ds => Pattern.fieldsOf ds

end

def Decorator.ofDatum : Datum → Decorator
  | .record _ [name, params] => ⟨name.toText, params.toList Datum.toLiteral⟩
  | _ => ⟨"", []⟩

mutual

def Expr.ofDatum : Datum → Expr
  | .node (.expr .literal) [value] => .literal value.toLiteral
  | .node (.expr .var) [name] => .var name.toText
  | .node (.expr .binary) [.binary op, left, right] =>
    .binary op (Expr.ofDatum left) (Expr.ofDatum right)
  | .node (.expr .unary) [.unary op, operand] => .unary op (Expr.ofDatum operand)
  | .node (.expr .field) [object, field] => .field (Expr.ofDatum object) field.toText
  | .node (.expr .index) [object, index] => .index (Expr.ofDatum object) (Expr.ofDatum index)
  | .node (.expr .call) [name, .list typeArgs, .list args] =>
    .call name.toText (Ty.ofList typeArgs) (Expr.ofList args)
  | .node (.expr .object) [.list fields] => .object (Expr.fieldsOf fields)
  | .node (.expr .array) [.list elements] => .array (Expr.ofList elements)
  | .node (.expr .lambda) [.list params, .absent, .list block] =>
    .lambda (Field.ofList params) none (Stmt.ofList block)
  | .node (.expr .lambda) [.list params, body, .list block] =>
    .lambda (Field.ofList params) (some (Expr.ofDatum body)) (Stmt.ofList block)
  | .node (.expr .pipe) [left, right] => .pipe (Expr.ofDatum left) (Expr.ofDatum right)
  | .node (.expr .matchOn) [value, .list cases] => .matchOn (Expr.ofDatum value) (Expr.casesOf cases)
  | .node (.expr .async) [.list body] => .async (Stmt.ofList body)
  | .node (.expr .await) [expr] => .await (Expr.ofDatum expr)
  | .node (.expr .quote) [.list body] => .quote (Stmt.ofList body)
  | .node (.expr .unquote) [expr] => .unquote (Expr.ofDatum expr)
  | _ => .unsupported

def Expr.ofList : List Datum → List Expr
  | [] => []
  | d :: ds => Expr.ofDatum d :: Expr.ofList ds

def Expr.fieldsOf : List Datum → List ObjectField
  | [] => []
  | .record _ [key, value] :: ds => ⟨key.toText, Expr.ofDatum value⟩ :: Expr.fieldsOf ds
  | _ :: ds => Expr.fieldsOf ds

def Expr.casesOf : List Datum → List MatchCase
  | [] => []
  | .record _ [pattern, .absent, body] :: ds =>
    ⟨Pattern.ofDatum pattern, none, Expr.ofDatum body⟩ :: Expr.casesOf ds
  | .record _ [pattern, guard, body] :: ds =>
    ⟨Pattern.ofDatum pattern, some (Expr.ofDatum guard), Expr.ofDatum body⟩ :: Expr.casesOf ds
  | _ :: ds => Expr.casesOf ds

def Field.ofList : List Datum → List Field
  | [] => []
  | .record _ [name, type, required, .absent, decorators] :: ds =>
    ⟨name.toText, type.toOption Ty.ofDatum, required.toFlag, none,
      decorators.toList Decorator.ofDatum⟩ :: Field.ofList ds
  | .record _ [name, type, required, default, decorators] :: ds =>
    ⟨name.toText, type.toOption Ty.ofDatum, required.toFlag, some (Expr.ofDatum default),
      decorators.toList Decorator.ofDatum⟩ :: Field.ofList ds
  | _ :: ds => Field.ofList ds

def Stmt.ofDatum : Datum → Stmt
  | .node (.stmt .assign) [target, value] => .assign target.toText (Expr.ofDatum value)
  | .node (.stmt .reassign) [target, value] => .reassign target.toText (Expr.ofDatum value)
  | .node (.stmt .ret) [.absent] => .ret none
  | .node (.stmt .ret) [value] => .ret (some (Expr.ofDatum value))
  | .node (.stmt .cond) [condition, .list thenBlock, .list elseBlock] =>
    .cond (Expr.ofDatum condition) (Stmt.ofList thenBlock) (Stmt.ofList elseBlock)
  | .node (.stmt .forEach) [key, value, iterable, .list body] =>
    .forEach key.toText? value.toText (Expr.ofDatum iterable) (Stmt.ofList body)
  | .node (.stmt .whileLoop) [condition, .list body] =>
    .whileLoop (Expr.ofDatum condition) (Stmt.ofList body)
  | .node (.stmt .switch) [value, .list cases, .list otherwise] =>
    .switch (Expr.ofDatum value) (Stmt.casesOf cases) (Stmt.ofList otherwise)
  | .node (.stmt .expr) [expr] => .expr (Expr.ofDatum expr)
  | .node (.stmt .validate) [call] => .validate (Expr.ofDatum call)
  | .node (.stmt .breakLoop) _ => .breakLoop
  | .node (.stmt .continueLoop) _ => .continueLoop
  | .node (.stmt .dbQuery) [query, .list params] => .dbQuery query.toText (Expr.ofList params)
  | .node (.stmt .wsSend) [client, message] =>
    .wsSend (Expr.ofDatum client) (Expr.ofDatum message)
  | .node (.stmt .wsBroadcast) [message, .absent] => .wsBroadcast (Expr.ofDatum message) none
  | .node (.stmt .wsBroadcast) [message, room] =>
    .wsBroadcast (Expr.ofDatum message) (some (Expr.ofDatum room))
  | .node (.stmt .wsClose) [.absent] => .wsClose none
  | .node (.stmt .wsClose) [reason] => .wsClose (some (Expr.ofDatum reason))
  | .node (.stmt .macroInvocation) [name, .list args] =>
    .macroInvocation name.toText (Expr.ofList args)
  | _ => .unsupported

def Stmt.ofList : List Datum → List Stmt
  | [] => []
  | d :: ds => Stmt.ofDatum d :: Stmt.ofList ds

def Stmt.casesOf : List Datum → List SwitchCase
  | [] => []
  | .record _ [value, .list body] :: ds =>
    ⟨Expr.ofDatum value, Stmt.ofList body⟩ :: Stmt.casesOf ds
  | _ :: ds => Stmt.casesOf ds

end

namespace Datum

def toTy? : Datum → Option Ty := toOption Ty.ofDatum

def toExpr? : Datum → Option Expr := toOption Expr.ofDatum

def toFields : Datum → List Field
  | .list ds => Field.ofList ds
  | _ => []

def toBody : Datum → List Stmt
  | .list ds => Stmt.ofList ds
  | _ => []

end Datum

def Method.ofDatum : Datum → Method
  | .record _ [name, params, result, body] =>
    ⟨name.toText, params.toFields, result.toTy?, body.toBody⟩
  | _ => ⟨"", [], none, []⟩

def Auth.ofDatum : Datum → Auth
  | .record _ [scheme, required, roles] => ⟨scheme.toText, required.toFlag, roles.toTexts⟩
  | _ => ⟨"", true, []⟩

def RateLimit.ofDatum : Datum → RateLimit
  | .record _ [requests, window] => ⟨requests.toCount, window.toText⟩
  | _ => ⟨0, ""⟩

def Middleware.ofDatum : Datum → Middleware
  | .record _ [name, args] => ⟨name.toText, args.toList Expr.ofDatum⟩
  | _ => ⟨"", []⟩

def Injection.ofDatum : Datum → Injection
  | .record _ [name, type] => ⟨name.toText, type.toTy?⟩
  | _ => ⟨"", none⟩

def QueryParam.ofDatum : Datum → QueryParam
  | .record _ [name, type, required, default, isArray] =>
    ⟨name.toText, type.toTy?, required.toFlag, default.toExpr?, isArray.toFlag⟩
  | _ => ⟨"", none, false, none, false⟩

def CommandParam.ofDatum : Datum → CommandParam
  | .record _ [name, type, required, default, isFlag] =>
    ⟨name.toText, type.toTy?, required.toFlag, default.toExpr?, isFlag.toFlag⟩
  | _ => ⟨"", none, true, none, false⟩

def RpcMethod.ofDatum : Datum → RpcMethod
  | .record _ [name, input, result, stream] =>
    ⟨name.toText, input.toTy?, result.toTy?, stream.toStream⟩
  | _ => ⟨"", none, none, .unary⟩

def SocketHandler.ofDatum : Datum → SocketHandler
  | .record _ [event, body] => ⟨event.toEvent, body.toBody⟩
  | _ => ⟨.message, []⟩

def ContractMethod.ofDatum : Datum → ContractMethod
  | .record _ [name, params, result] => ⟨name.toText, params.toFields, result.toTy?⟩
  | _ => ⟨"", [], none⟩

def Item.ofDatum : Datum → Item
  | .node (.item .moduleName) [name] => .moduleName name.toText
  | .node (.item .importing) [path, shortName] => .importing path.toText shortName.toText?
  | .node (.item .typeDecl) [name, typeParams, traits, fields, methods] =>
    .typeDecl
      ⟨name.toText, typeParams.toTexts, traits.toTexts, fields.toFields,
        methods.toList Method.ofDatum⟩
  | .node (.item .route)
      [method, path, input, result, auth, rateLimit, middleware, injections, query, body] =>
    .route
      ⟨method.toMethod, path.toText, input.toTy?, result.toTy?, auth.toOption Auth.ofDatum,
        rateLimit.toOption RateLimit.ofDatum, middleware.toList Middleware.ofDatum,
        injections.toList Injection.ofDatum, query.toList QueryParam.ofDatum, body.toBody⟩
  | .node (.item .function) [name, typeParams, params, result, body] =>
    .function ⟨name.toText, typeParams.toTexts, params.toFields, result.toTy?, body.toBody⟩
  | .node (.item .cron) [name, schedule, timezone, retries, injections, body] =>
    .cron
      ⟨name.toText, schedule.toText, timezone.toText?, retries.toCount,
        injections.toList Injection.ofDatum, body.toBody⟩
  | .node (.item .event) [name, isAsync, injections, body] =>
    .event ⟨name.toText, isAsync.toFlag, injections.toList Injection.ofDatum, body.toBody⟩
  | .node (.item .queue) [name, concurrency, maxRetries, timeout, injections, body] =>
    .queue
      ⟨name.toText, concurrency.toCount, maxRetries.toCount, timeout.toCount,
        injections.toList Injection.ofDatum, body.toBody⟩
  | .node (.item .command) [name, description, params, result, body] =>
    .command
      ⟨name.toText, description.toText, params.toList CommandParam.ofDatum, result.toTy?,
        body.toBody⟩
  | .node (.item .rpcService) [name, methods] =>
    .rpcService ⟨name.toText, methods.toList RpcMethod.ofDatum⟩
  | .node (.item .rpcHandler) [service, method, params, result, stream, auth, injections, body] =>
    .rpcHandler
      ⟨service.toText, method.toText, params.toFields, result.toTy?, stream.toStream,
        auth.toOption Auth.ofDatum, injections.toList Injection.ofDatum, body.toBody⟩
  | .node (.item .resolver) [operation, field, params, result, auth, injections, body] =>
    .resolver
      ⟨operation.toOperation, field.toText, params.toFields, result.toTy?,
        auth.toOption Auth.ofDatum, injections.toList Injection.ofDatum, body.toBody⟩
  | .node (.item .socket) [path, handlers] =>
    .socket ⟨path.toText, handlers.toList SocketHandler.ofDatum⟩
  | .node (.item .constant) [name, type, value] =>
    .constant ⟨name.toText, type.toTy?, value.toExpr?⟩
  | .node (.item .contract) [name, methods] =>
    .contract ⟨name.toText, methods.toList ContractMethod.ofDatum⟩
  | .node (.item .test) [name, body] => .test name.toText body.toBody
  | .node (.item .macroDecl) [name, params, body] =>
    .macroDecl name.toText params.toTexts body.toBody
  | .node (.item .traitDecl) [name, methods] =>
    .traitDecl name.toText (methods.toList ContractMethod.ofDatum)
  | .node (.item .staticRoute) [path, dir] => .staticRoute path.toText dir.toText
  | _ => .unsupported

end ServiceCompiler.Surface
