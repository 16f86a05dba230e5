import ServiceCompiler.Core.Service
import ServiceCompiler.Json.Value

/-! # Services as documents

A record is the object of its fields; an alternative with content is an object with its name as the
only key, and an alternative without content is its name. -/

namespace ServiceCompiler.Core

def tagged (name : String) (content : Json) : Json := .object [(name, content)]

def textJson (s : String) : Json := .string s

def textsJson (ss : List String) : Json := .array (ss.map .string)

def countJson (n : UInt32) : Json := .number (.integer n.toNat)

def optionJson {α : Type} (f : α → Json) : Option α → Json
  | none => .null
  | some a => f a

def listJson {α : Type} (f : α → Json) (xs : List α) : Json := .array (xs.map f)

def methodJson : HttpMethod → Json
  | .get => .string "Get"
  | .post => .string "Post"
  | .put => .string "Put"
  | .delete => .string "Delete"
  | .patch => .string "Patch"
  | .webSocket => .string "WebSocket"
  | .sse => .string "Sse"

def streamName : StreamMode → String
  | .unary => "Unary"
  | .serverStream => "ServerStream"
  | .clientStream => "ClientStream"
  | .bidirectional => "Bidirectional"

def eventJson : SocketEvent → Json
  | .connect => .string "Connect"
  | .disconnect => .string "Disconnect"
  | .message => .string "Message"
  | .error => .string "Error"

def binaryName : BinaryOp → String
  | .add => "Add"
  | .sub => "Sub"
  | .mul => "Mul"
  | .div => "Div"
  | .mod => "Mod"
  | .eq => "Eq"
  | .ne => "Ne"
  | .lt => "Lt"
  | .le => "Le"
  | .gt => "Gt"
  | .ge => "Ge"
  | .and => "And"
  | .or => "Or"

def unaryName : UnaryOp → String
  | .not => "Not"
  | .neg => "Neg"

def literalJson : Literal → Json
  | .int n => tagged "Int" (.number (.integer n.toInt))
  | .float x => tagged "Float" (.number (.real x))
  | .string s => tagged "String" (.string s)
  | .bool b => tagged "Bool" (.bool b)
  | .null => .string "Null"

mutual

def Ty.toJson : Ty → Json
  | .int => .string "Int"
  | .float => .string "Float"
  | .string => .string "String"
  | .bool => .string "Bool"
  | .any => .string "Any"
  | .array element => tagged "Array" element.toJson
  | .optional inner => tagged "Optional" inner.toJson
  | .future result => tagged "Future" result.toJson
  | .union members => tagged "Union" (.array (Ty.listToJson members))
  | .generic name args =>
    tagged "Generic" (.object [("name", .string name), ("args", .array (Ty.listToJson args))])
  | .named name => tagged "Named" (.string name)
  | .provider name => tagged "Provider" (.string name)
  | .function params result =>
    tagged "Function" (.object [("params", .array (Ty.listToJson params)), ("ret", result.toJson)])

def Ty.listToJson : List Ty → List Json
  | [] => []
  | t :: ts => t.toJson :: Ty.listToJson ts

end

mutual

def Pattern.toJson : Pattern → Json
  | .literal value => tagged "Literal" (literalJson value)
  | .variable name => tagged "Variable" (.string name)
  | .wildcard => .string "Wildcard"
  | .object fields => tagged "Object" (.array (Pattern.fieldsToJson fields))
  | .array elements rest =>
    tagged "Array"
      (.object
        [("elements", .array (Pattern.listToJson elements)), ("rest", optionJson textJson rest)])

def Pattern.listToJson : List Pattern → List Json
  | [] => []
  | p :: ps => p.toJson :: Pattern.listToJson ps

def Pattern.fieldsToJson : List PatternField → List Json
  | [] => []
  | ⟨key, none⟩ :: fs =>
    .object [("key", .string key), ("pattern", .null)] :: Pattern.fieldsToJson fs
  | ⟨key, some p⟩ :: fs =>
    .object [("key", .string key), ("pattern", p.toJson)] :: Pattern.fieldsToJson fs

end

def Decorator.toJson (d : Decorator) : Json :=
  .object [("name", .string d.name), ("params", listJson literalJson d.params)]

mutual

def Expr.toJson : Expr → Json
  | .int n => tagged "Int" (.number (.integer n.toInt))
  | .float x => tagged "Float" (.number (.real x))
  | .string s => tagged "String" (.string s)
  | .bool b => tagged "Bool" (.bool b)
  | .null => .string "Null"
  | .var name => tagged "Var" (.string name)
  | .binary op left right =>
    tagged "Binary"
      (.object [("op", .string (binaryName op)), ("left", left.toJson), ("right", right.toJson)])
  | .unary op operand =>
    tagged "Unary" (.object [("op", .string (unaryName op)), ("operand", operand.toJson)])
  | .field target name =>
    tagged "FieldAccess" (.object [("object", target.toJson), ("field", .string name)])
  | .index target position =>
    tagged "IndexAccess" (.object [("object", target.toJson), ("index", position.toJson)])
  | .call name typeArgs args =>
    tagged "Call"
      (.object
        [("name", .string name), ("type_args", .array (Ty.listToJson typeArgs)),
          ("args", .array (Expr.listToJson args))])
  | .object fields => tagged "Object" (.array (Expr.fieldsToJson fields))
  | .array elements => tagged "Array" (.array (Expr.listToJson elements))
  | .lambda params body =>
    tagged "Lambda"
      (.object
        [("params", .array (Expr.paramsToJson params)), ("body", Expr.lambdaToJson body)])
  | .pipe left right => tagged "Pipe" (.object [("left", left.toJson), ("right", right.toJson)])
  | .matchOn value cases =>
    tagged "Match"
      (.object [("value", value.toJson), ("cases", .array (Expr.casesToJson cases))])
  | .async body => tagged "Async" (.array (Expr.bodyToJson body))
  | .await expr => tagged "Await" expr.toJson

def Expr.listToJson : List Expr → List Json
  | [] => []
  | e :: es => e.toJson :: Expr.listToJson es

def Expr.optionToJson : Option Expr → Json
  | none => .null
  | some e => e.toJson

def Expr.fieldsToJson : List ObjectField → List Json
  | [] => []
  | ⟨key, value⟩ :: fs =>
    .object [("key", .string key), ("value", value.toJson)] :: Expr.fieldsToJson fs

def Expr.lambdaToJson : LambdaBody → Json
  | .expr body => tagged "Expr" body.toJson
  | .block body => tagged "Block" (.array (Expr.bodyToJson body))

def Expr.casesToJson : List MatchCase → List Json
  | [] => []
  | ⟨pattern, guard, body⟩ :: cs =>
    .object
      [("pattern", pattern.toJson), ("guard", Expr.optionToJson guard), ("body", body.toJson)] ::
      Expr.casesToJson cs

def Expr.paramsToJson : List Field → List Json
  | [] => []
  | ⟨name, type, required, default, decorators⟩ :: fs =>
    .object
      [("name", .string name), ("ty", type.toJson), ("required", .bool required),
        ("default", Expr.optionToJson default), ("annotations", listJson Decorator.toJson decorators)] ::
      Expr.paramsToJson fs

def Expr.stmtToJson : Stmt → Json
  | .assign name value =>
    tagged "Assign" (.object [("target", .string name), ("value", value.toJson)])
  | .reassign name value =>
    tagged "Reassign" (.object [("target", .string name), ("value", value.toJson)])
  | .ret value => tagged "Return" value.toJson
  | .cond condition thenBody elseBody =>
    tagged "If"
      (.object
        [("condition", condition.toJson), ("then_body", .array (Expr.bodyToJson thenBody)),
          ("else_body", .array (Expr.bodyToJson elseBody))])
  | .forEach key value iterable body =>
    tagged "For"
      (.object
        [("key", optionJson textJson key), ("value", .string value), ("iterable", iterable.toJson),
          ("body", .array (Expr.bodyToJson body))])
  | .whileLoop condition body =>
    tagged "While"
      (.object [("condition", condition.toJson), ("body", .array (Expr.bodyToJson body))])
  | .switch value cases otherwise =>
    tagged "Switch"
      (.object
        [("value", value.toJson), ("cases", .array (Expr.switchToJson cases)),
          ("default", .array (Expr.bodyToJson otherwise))])
  | .expr e => tagged "Expr" e.toJson
  | .validate e => tagged "Validate" e.toJson
  | .breakLoop => .string "Break"
  | .continueLoop => .string "Continue"

def Expr.bodyToJson : List Stmt → List Json
  | [] => []
  | s :: ss => Expr.stmtToJson s :: Expr.bodyToJson ss

def Expr.switchToJson : List SwitchCase → List Json
  | [] => []
  | ⟨value, body⟩ :: cs =>
    .object [("value", value.toJson), ("body", .array (Expr.bodyToJson body))] ::
      Expr.switchToJson cs

end

def fieldsJson (fs : List Field) : Json := .array (Expr.paramsToJson fs)

def bodyJson (ss : List Stmt) : Json := .array (Expr.bodyToJson ss)

def tyJson? : Option Ty → Json := optionJson Ty.toJson

def exprJson? : Option Expr → Json := optionJson Expr.toJson

def Method.toJson (m : Method) : Json :=
  .object
    [("name", .string m.name), ("params", fieldsJson m.params), ("return_type", m.result.toJson),
      ("body", bodyJson m.body)]

def Record.toJson (r : Record) : Json :=
  .object
    [("name", .string r.name), ("fields", fieldsJson r.fields), ("type_params", textsJson r.typeParams),
      ("traits", textsJson r.traits), ("methods", listJson Method.toJson r.methods)]

def Signature.toJson (s : Signature) : Json :=
  .object
    [("name", .string s.name), ("params", fieldsJson s.params), ("return_type", s.result.toJson)]

def Provider.toJson (p : Provider) : Json :=
  .object
    [("name", .string p.name), ("provider_type", .string p.type), ("is_standard", .bool p.isStandard),
      ("methods", listJson Signature.toJson p.methods)]

def Injection.toJson (i : Injection) : Json :=
  .object [("name", .string i.name), ("provider_type", .string i.type)]

def injectionsJson (is : List Injection) : Json := listJson Injection.toJson is

def QueryParam.toJson (q : QueryParam) : Json :=
  .object
    [("name", .string q.name), ("ty", q.type.toJson), ("required", .bool q.required),
      ("default", exprJson? q.default), ("is_array", .bool q.isArray)]

def Auth.toJson (a : Auth) : Json :=
  .object
    [("auth_type", .string a.scheme), ("required", .bool a.required), ("roles", textsJson a.roles)]

def RateLimit.toJson (r : RateLimit) : Json :=
  .object [("requests", countJson r.requests), ("window", .string r.window)]

def Middleware.toJson (m : Middleware) : Json :=
  .object [("name", .string m.name), ("args", .array (Expr.listToJson m.args))]

def Route.toJson (r : Route) : Json :=
  .object
    [("method", methodJson r.method), ("path", .string r.path),
      ("path_params", textsJson r.pathParams), ("query_params", listJson QueryParam.toJson r.query),
      ("input_type", tyJson? r.input), ("return_type", tyJson? r.result),
      ("auth", optionJson Auth.toJson r.auth), ("rate_limit", optionJson RateLimit.toJson r.rateLimit),
      ("middleware", listJson Middleware.toJson r.middleware),
      ("providers", injectionsJson r.injections), ("body", bodyJson r.body)]

def EventBinding.toJson (e : EventBinding) : Json :=
  .object
    [("event_type", .string e.event), ("is_async", .bool e.isAsync),
      ("providers", injectionsJson e.injections), ("body", bodyJson e.body)]

def CronJob.toJson (j : CronJob) : Json :=
  .object
    [("name", .string j.name), ("schedule", .string j.schedule),
      ("timezone", optionJson textJson j.timezone), ("retries", countJson j.retries),
      ("providers", injectionsJson j.injections), ("body", bodyJson j.body)]

def QueueBinding.toJson (q : QueueBinding) : Json :=
  .object
    [("queue_name", .string q.queue), ("concurrency", countJson q.concurrency),
      ("max_retries", countJson q.maxRetries), ("timeout_secs", countJson q.timeout),
      ("providers", injectionsJson q.injections), ("body", bodyJson q.body)]

def CommandParam.toJson (p : CommandParam) : Json :=
  .object
    [("name", .string p.name), ("ty", p.type.toJson), ("required", .bool p.required),
      ("default", exprJson? p.default), ("is_flag", .bool p.isFlag)]

def Command.toJson (c : Command) : Json :=
  .object
    [("name", .string c.name), ("description", .string c.description),
      ("params", listJson CommandParam.toJson c.params), ("return_type", tyJson? c.result),
      ("body", bodyJson c.body)]

def Function.toJson (f : Function) : Json :=
  .object
    [("name", .string f.name), ("type_params", textsJson f.typeParams), ("params", fieldsJson f.params),
      ("return_type", tyJson? f.result), ("body", bodyJson f.body)]

def streamJson (m : StreamMode) : Json := .string (streamName m)

def RpcMethod.toJson (m : RpcMethod) : Json :=
  .object
    [("name", .string m.name), ("input_type", m.input.toJson), ("return_type", m.result.toJson),
      ("stream", streamJson m.stream)]

def RpcHandler.toJson (h : RpcHandler) : Json :=
  .object
    [("service_name", .string h.service), ("method_name", .string h.method),
      ("params", fieldsJson h.params), ("return_type", tyJson? h.result),
      ("stream", streamJson h.stream), ("auth", optionJson Auth.toJson h.auth),
      ("providers", injectionsJson h.injections), ("body", bodyJson h.body)]

def RpcService.toJson (s : RpcService) : Json :=
  .object
    [("name", .string s.name), ("methods", listJson RpcMethod.toJson s.methods),
      ("handlers", listJson RpcHandler.toJson s.handlers)]

def Resolver.toJson (r : Resolver) : Json :=
  .object
    [("operation", .string (rootType r.operation)), ("field_name", .string r.field),
      ("params", fieldsJson r.params), ("return_type", tyJson? r.result),
      ("auth", optionJson Auth.toJson r.auth), ("providers", injectionsJson r.injections),
      ("body", bodyJson r.body)]

def SocketHandler.toJson (h : SocketHandler) : Json :=
  .object [("event", eventJson h.event), ("body", bodyJson h.body)]

def Socket.toJson (s : Socket) : Json :=
  .object [("path", .string s.path), ("events", listJson SocketHandler.toJson s.handlers)]

def Constant.toJson (c : Constant) : Json :=
  .object [("name", .string c.name), ("ty", tyJson? c.type), ("value", c.value.toJson)]

def Service.toJson (s : Service) : Json :=
  .object
    [("name", .string s.name), ("types", listJson Record.toJson s.records),
      ("providers", listJson Provider.toJson s.providers), ("routes", listJson Route.toJson s.routes),
      ("events", listJson EventBinding.toJson s.events),
      ("cron_jobs", listJson CronJob.toJson s.cronJobs),
      ("queues", listJson QueueBinding.toJson s.queues),
      ("commands", listJson Command.toJson s.commands),
      ("functions", listJson Function.toJson s.functions), ("grpc", listJson RpcService.toJson s.rpc),
      ("graphql", listJson Resolver.toJson s.resolvers),
      ("websockets", listJson Socket.toJson s.sockets),
      ("constants", listJson Constant.toJson s.constants)]

end ServiceCompiler.Core
