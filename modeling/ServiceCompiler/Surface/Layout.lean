import ServiceCompiler.Surface.Kind
import ServiceCompiler.Surface.Tree

/-! # The layout of program documents

For every record and every kind of node: its fields in order, the shape of each, and what stands
for a field that is left out. -/

namespace ServiceCompiler.Surface

/-- A vocabulary whose words stand as strings in documents. -/
inductive Choice
  | method | stream | operation | event | binary | unary
  deriving DecidableEq, Repr

def Choice.names : Choice → List String
  | .method => HttpMethod.all.map HttpMethod.name
  | .stream => StreamMode.all.map StreamMode.name
  | .operation => Operation.all.map Operation.name
  | .event => SocketEvent.all.map SocketEvent.name
  | .binary => BinaryOp.all.map BinaryOp.name
  | .unary => UnaryOp.all.map UnaryOp.name

/-- The records that are neither programs nor nodes. -/
inductive Record
  | field | decorator | method | auth | rateLimit | middleware | injection | queryParam
  | commandParam | rpcMethod | socketHandler | contractMethod | switchCase | objectField
  | matchCase | patternField
  deriving DecidableEq, Repr

/-- The content of a program document, or of a part of it. -/
inductive Datum
  | text (s : String)
  | flag (b : Bool)
  | count (n : UInt32)
  | method (m : HttpMethod)
  | stream (m : StreamMode)
  | operation (o : Operation)
  | event (e : SocketEvent)
  | binary (op : BinaryOp)
  | unary (op : UnaryOp)
  | literal (l : Literal)
  | absent
  | list (items : List Datum)
  | record (record : Record) (fields : List Datum)
  | node (kind : Kind) (fields : List Datum)

inductive Shape
  | text
  | flag
  | count
  | choice (choice : Choice)
  | literal
  | list (element : Shape)
  | record (record : Record)
  | node (family : Family)
  deriving DecidableEq, Repr

/-- What holds for a field that is left out. An optional field may also be `null`. -/
inductive Presence
  | required
  | optional
  | orElse (value : Datum)

structure FieldSpec where
  name : String
  shape : Shape
  presence : Presence

structure Layout where
  title : String
  fields : List FieldSpec

namespace FieldSpec

def must (name : String) (shape : Shape) : FieldSpec := ⟨name, shape, .required⟩

def maybe (name : String) (shape : Shape) : FieldSpec := ⟨name, shape, .optional⟩

def orElse (name : String) (shape : Shape) (value : Datum) : FieldSpec := ⟨name, shape, .orElse value⟩

/-- A list that is empty when it is left out. -/
def listOf (name : String) (element : Shape) : FieldSpec := orElse name (.list element) (.list [])

def flagOr (name : String) (value : Bool) : FieldSpec := orElse name .flag (.flag value)

def countOrZero (name : String) : FieldSpec := orElse name .count (.count 0)

end FieldSpec

open FieldSpec in
def Record.layout : Record → Layout
  | .field =>
    ⟨"struct Field",
      [must "name" .text, maybe "type" (.node .ty), flagOr "required" true,
        maybe "default" (.node .expr), listOf "annotations" (.record .decorator)]⟩
  | .decorator => ⟨"struct Annotation", [must "name" .text, listOf "params" .literal]⟩
  | .method =>
    ⟨"struct MethodDef",
      [must "name" .text, listOf "params" (.record .field), maybe "return_type" (.node .ty),
        listOf "body" (.node .stmt)]⟩
  | .auth =>
    ⟨"struct AuthConfig",
      [must "auth_type" .text, flagOr "required" true, listOf "roles" .text]⟩
  | .rateLimit => ⟨"struct RateLimit", [must "requests" .count, must "window" .text]⟩
  | .middleware => ⟨"struct MiddlewareUse", [must "name" .text, listOf "args" (.node .expr)]⟩
  | .injection => ⟨"struct Injection", [must "name" .text, maybe "type" (.node .ty)]⟩
  | .queryParam =>
    ⟨"struct QueryParamDecl",
      [must "name" .text, maybe "type" (.node .ty), flagOr "required" false,
        maybe "default" (.node .expr), flagOr "is_array" false]⟩
  | .commandParam =>
    ⟨"struct CommandParamDecl",
      [must "name" .text, maybe "type" (.node .ty), flagOr "required" true,
        maybe "default" (.node .expr), flagOr "is_flag" false]⟩
  | .rpcMethod =>
    ⟨"struct GrpcMethod",
      [must "name" .text, maybe "input_type" (.node .ty), maybe "return_type" (.node .ty),
        orElse "stream" (.choice .stream) (.stream .unary)]⟩
  | .socketHandler =>
    ⟨"struct WsEventHandler", [must "event" (.choice .event), listOf "body" (.node .stmt)]⟩
  | .contractMethod =>
    ⟨"struct ProviderMethod",
      [must "name" .text, listOf "params" (.record .field), maybe "return_type" (.node .ty)]⟩
  | .switchCase => ⟨"struct SwitchCase", [must "value" (.node .expr), listOf "body" (.node .stmt)]⟩
  | .objectField => ⟨"struct ObjectField", [must "key" .text, must "value" (.node .expr)]⟩
  | .matchCase =>
    ⟨"struct MatchCase",
      [must "pattern" (.node .pattern), maybe "guard" (.node .expr),
        must "body" (.node .expr)]⟩
  | .patternField =>
    ⟨"struct ObjectPatternField", [must "key" .text, maybe "pattern" (.node .pattern)]⟩

open FieldSpec in
def ItemKind.layout : ItemKind → Layout
  | .moduleName => ⟨"struct ModuleDecl", [must "name" .text]⟩
  | .importing => ⟨"struct ImportStatement", [must "path" .text, maybe "alias" .text]⟩
  | .typeDecl =>
    ⟨"struct TypeDef",
      [must "name" .text, listOf "type_params" .text, listOf "traits" .text,
        listOf "fields" (.record .field), listOf "methods" (.record .method)]⟩
  | .route =>
    ⟨"struct Route",
      [orElse "method" (.choice .method) (.method .get), must "path" .text,
        maybe "input_type" (.node .ty), maybe "return_type" (.node .ty),
        maybe "auth" (.record .auth), maybe "rate_limit" (.record .rateLimit),
        listOf "middleware" (.record .middleware), listOf "injections" (.record .injection),
        listOf "query_params" (.record .queryParam), listOf "body" (.node .stmt)]⟩
  | .function =>
    ⟨"struct Function",
      [must "name" .text, listOf "type_params" .text, listOf "params" (.record .field),
        maybe "return_type" (.node .ty), listOf "body" (.node .stmt)]⟩
  | .cron =>
    ⟨"struct CronTask",
      [orElse "name" .text (.text ""), must "schedule" .text, maybe "timezone" .text,
        countOrZero "retries", listOf "injections" (.record .injection),
        listOf "body" (.node .stmt)]⟩
  | .event =>
    ⟨"struct EventHandler",
      [must "event_type" .text, flagOr "async" false, listOf "injections" (.record .injection),
        listOf "body" (.node .stmt)]⟩
  | .queue =>
    ⟨"struct QueueWorker",
      [must "queue_name" .text, countOrZero "concurrency", countOrZero "max_retries",
        countOrZero "timeout", listOf "injections" (.record .injection),
        listOf "body" (.node .stmt)]⟩
  | .command =>
    ⟨"struct Command",
      [must "name" .text, orElse "description" .text (.text ""),
        listOf "params" (.record .commandParam), maybe "return_type" (.node .ty),
        listOf "body" (.node .stmt)]⟩
  | .rpcService => ⟨"struct GrpcService", [must "name" .text, listOf "methods" (.record .rpcMethod)]⟩
  | .rpcHandler =>
    ⟨"struct GrpcHandler",
      [must "service_name" .text, must "method_name" .text,
        listOf "params" (.record .field), maybe "return_type" (.node .ty),
        orElse "stream" (.choice .stream) (.stream .unary), maybe "auth" (.record .auth),
        listOf "injections" (.record .injection), listOf "body" (.node .stmt)]⟩
  | .resolver =>
    ⟨"struct GraphQlResolver",
      [orElse "operation" (.choice .operation) (.operation .query), must "field_name" .text,
        listOf "params" (.record .field), maybe "return_type" (.node .ty),
        maybe "auth" (.record .auth), listOf "injections" (.record .injection),
        listOf "body" (.node .stmt)]⟩
  | .socket =>
    ⟨"struct WebSocketRoute", [must "path" .text, listOf "events" (.record .socketHandler)]⟩
  | .constant =>
    ⟨"struct ConstDecl",
      [must "name" .text, maybe "type" (.node .ty), maybe "value" (.node .expr)]⟩
  | .contract =>
    ⟨"struct ProviderDef", [must "name" .text, listOf "methods" (.record .contractMethod)]⟩
  | .test => ⟨"struct TestBlock", [must "name" .text, listOf "body" (.node .stmt)]⟩
  | .macroDecl =>
    ⟨"struct MacroDef",
      [must "name" .text, listOf "params" .text, listOf "body" (.node .stmt)]⟩
  | .traitDecl =>
    ⟨"struct TraitDef", [must "name" .text, listOf "methods" (.record .contractMethod)]⟩
  | .staticRoute => ⟨"struct StaticRoute", [must "path" .text, orElse "dir" .text (.text "")]⟩
  | .unsupported => ⟨"unit variant Item::Unsupported", []⟩

open FieldSpec in
def TyKind.layout : TyKind → Layout
  | .array => ⟨"struct variant Type::Array", [must "element" (.node .ty)]⟩
  | .optional => ⟨"struct variant Type::Optional", [must "inner" (.node .ty)]⟩
  | .named => ⟨"struct variant Type::Named", [must "name" .text]⟩
  | .union => ⟨"struct variant Type::Union", [must "types" (.list (.node .ty))]⟩
  | .generic =>
    ⟨"struct variant Type::Generic", [must "base" (.node .ty), listOf "args" (.node .ty)]⟩
  | .function =>
    ⟨"struct variant Type::Function", [listOf "params" (.node .ty), maybe "ret" (.node .ty)]⟩
  | .future => ⟨"struct variant Type::Future", [must "result" (.node .ty)]⟩
  | .typeParam => ⟨"struct variant Type::TypeParam", [must "name" .text]⟩
  | .int => ⟨"unit variant Type::Int", []⟩
  | .float => ⟨"unit variant Type::Float", []⟩
  | .string => ⟨"unit variant Type::String", []⟩
  | .bool => ⟨"unit variant Type::Bool", []⟩
  | .database => ⟨"unit variant Type::Database", []⟩
  | .redis => ⟨"unit variant Type::Redis", []⟩
  | .mongoDb => ⟨"unit variant Type::MongoDb", []⟩
  | .llm => ⟨"unit variant Type::Llm", []⟩
  | .unsupported => ⟨"unit variant Type::Unsupported", []⟩

open FieldSpec in
def StmtKind.layout : StmtKind → Layout
  | .assign => ⟨"struct variant Stmt::Assign", [must "target" .text, must "value" (.node .expr)]⟩
  | .reassign =>
    ⟨"struct variant Stmt::Reassign", [must "target" .text, must "value" (.node .expr)]⟩
  | .ret => ⟨"struct variant Stmt::Return", [maybe "value" (.node .expr)]⟩
  | .cond =>
    ⟨"struct variant Stmt::If",
      [must "condition" (.node .expr), listOf "then_block" (.node .stmt),
        listOf "else_block" (.node .stmt)]⟩
  | .forEach =>
    ⟨"struct variant Stmt::For",
      [maybe "key" .text, must "value" .text, must "iterable" (.node .expr),
        listOf "body" (.node .stmt)]⟩
  | .whileLoop =>
    ⟨"struct variant Stmt::While", [must "condition" (.node .expr), listOf "body" (.node .stmt)]⟩
  | .switch =>
    ⟨"struct variant Stmt::Switch",
      [must "value" (.node .expr), listOf "cases" (.record .switchCase),
        listOf "default" (.node .stmt)]⟩
  | .expr => ⟨"struct variant Stmt::Expr", [must "expr" (.node .expr)]⟩
  | .validate => ⟨"struct variant Stmt::Validate", [must "call" (.node .expr)]⟩
  | .dbQuery =>
    ⟨"struct variant Stmt::DbQuery", [must "query" .text, listOf "params" (.node .expr)]⟩
  | .wsSend =>
    ⟨"struct variant Stmt::WsSend", [must "client" (.node .expr), must "message" (.node .expr)]⟩
  | .wsBroadcast =>
    ⟨"struct variant Stmt::WsBroadcast",
      [must "message" (.node .expr), maybe "room" (.node .expr)]⟩
  | .wsClose => ⟨"struct variant Stmt::WsClose", [maybe "reason" (.node .expr)]⟩
  | .macroInvocation =>
    ⟨"struct variant Stmt::MacroInvocation", [must "name" .text, listOf "args" (.node .expr)]⟩
  | .breakLoop => ⟨"unit variant Stmt::Break", []⟩
  | .continueLoop => ⟨"unit variant Stmt::Continue", []⟩
  | .unsupported => ⟨"unit variant Stmt::Unsupported", []⟩

open FieldSpec in
def ExprKind.layout : ExprKind → Layout
  | .literal => ⟨"struct variant Expr::Literal", [must "value" .literal]⟩
  | .var => ⟨"struct variant Expr::Var", [must "name" .text]⟩
  | .binary =>
    ⟨"struct variant Expr::Binary",
      [must "op" (.choice .binary), must "left" (.node .expr),
        must "right" (.node .expr)]⟩
  | .unary =>
    ⟨"struct variant Expr::Unary", [must "op" (.choice .unary), must "operand" (.node .expr)]⟩
  | .field => ⟨"struct variant Expr::Field", [must "object" (.node .expr), must "field" .text]⟩
  | .index =>
    ⟨"struct variant Expr::Index", [must "object" (.node .expr), must "index" (.node .expr)]⟩
  | .call =>
    ⟨"struct variant Expr::Call",
      [must "name" .text, listOf "type_args" (.node .ty), listOf "args" (.node .expr)]⟩
  | .object => ⟨"struct variant Expr::Object", [listOf "fields" (.record .objectField)]⟩
  | .array => ⟨"struct variant Expr::Array", [listOf "elements" (.node .expr)]⟩
  | .lambda =>
    ⟨"struct variant Expr::Lambda",
      [listOf "params" (.record .field), maybe "body" (.node .expr),
        listOf "block" (.node .stmt)]⟩
  | .pipe =>
    ⟨"struct variant Expr::Pipe", [must "left" (.node .expr), must "right" (.node .expr)]⟩
  | .matchOn =>
    ⟨"struct variant Expr::Match", [must "value" (.node .expr), listOf "cases" (.record .matchCase)]⟩
  | .async => ⟨"struct variant Expr::Async", [listOf "body" (.node .stmt)]⟩
  | .await => ⟨"struct variant Expr::Await", [must "expr" (.node .expr)]⟩
  | .quote => ⟨"struct variant Expr::Quote", [listOf "body" (.node .stmt)]⟩
  | .unquote => ⟨"struct variant Expr::Unquote", [must "expr" (.node .expr)]⟩
  | .unsupported => ⟨"unit variant Expr::Unsupported", []⟩

open FieldSpec in
def PatternKind.layout : PatternKind → Layout
  | .literal => ⟨"struct variant Pattern::Literal", [must "value" .literal]⟩
  | .variable => ⟨"struct variant Pattern::Variable", [must "name" .text]⟩
  | .object => ⟨"struct variant Pattern::Object", [listOf "fields" (.record .patternField)]⟩
  | .array =>
    ⟨"struct variant Pattern::Array", [listOf "elements" (.node .pattern), maybe "rest" .text]⟩
  | .wildcard => ⟨"unit variant Pattern::Wildcard", []⟩
  | .unsupported => ⟨"unit variant Pattern::Unsupported", []⟩

def Kind.layout : Kind → Layout
  | .item kind => kind.layout
  | .ty kind => kind.layout
  | .stmt kind => kind.layout
  | .expr kind => kind.layout
  | .pattern kind => kind.layout

end ServiceCompiler.Surface
