import ServiceCompiler.Plan.Path
import ServiceCompiler.Schema.GraphQl
import ServiceCompiler.Schema.Proto
import ServiceCompiler.Target.PythonProvider

/-! # Python routes, resolvers, remote methods and sockets -/

namespace ServiceCompiler.Python

open ServiceCompiler.Core (Service Route QueryParam Resolver RpcService Socket)
open Plan (RpcPlan)
open Source (Emit)
open Source.Emit (line lines gap nest head each only collect enclosed spaced)
open Text (join doubleQuoted)

def inputType (s : Service) : Core.Ty → String
  | .named name => if Schema.isDeclared s name then name else "Dict[str, Any]"
  | _ => "Dict[str, Any]"

/-- A parameter of the query, with whether it stands behind those that are required. -/
def queryParam (q : QueryParam) : Emit (Bool × Param) := do
  let base := typeText q.type.present
  let type := if q.isArray then s!"List[{base}]" else base
  match q.default with
  | some value =>
    let value ← expr false value
    return (true, ⟨q.name, some type, some (if q.isArray then s!"Query({value})" else value)⟩)
  | none =>
    return (!q.required,
      match q.required, q.isArray with
      | true, true => ⟨q.name, some type, some "Query(...)"⟩
      | true, false => ⟨q.name, some type, none⟩
      | false, true => ⟨q.name, some (optionalType type), some "Query(None)"⟩
      | false, false => ⟨q.name, some (optionalType type), some "None"⟩)

/-- The parameters of a route: those of its path, its input and its required queries, then the
other queries and the dependencies. -/
def routeParams (s : Service) (r : Route) : Emit (List Param) := do
  let queries ← collect r.query queryParam
  let path : List Param := r.pathParams.map fun name => ⟨name, some "str", none⟩
  let input : List Param := (r.input.map fun t => ⟨"input", some (inputType s t), none⟩).toList
  let injected : List Param :=
    r.injections.map fun i => ⟨i.name, none, some s!"Depends({Plan.accessorName i.type})"⟩
  let pick (optional : Bool) : List Param :=
    (queries.filter (·.1 == optional)).map (·.2)
  return path ++ input ++ pick false ++ pick true ++ injected

def routeLines (s : Service) (r : Route) (name : String) : Emit Unit := do
  let ps ← routeParams s r
  let status := if r.method = .post then ", status_code=201" else ""
  line s!"@app.{Plan.httpVerb r.method}({doubleQuoted (Plan.bracePath r.path)}{status})"
  head s!"async def {name}({paramTexts ps}):" do
    authLine r.auth
    match r.rateLimit with
    | some l => line s!"# Rate limited: {l.requests} requests per {l.window}"
    | none => pure ()
    each r.middleware fun m => line s!"# Middleware: {m.name}"
    block (.route (Plan.routeStatus r.method)) r.body

def routesSection (s : Service) : Emit Unit :=
  each (s.routes.zip (Plan.routeNames s.routes)) fun (r, name) => do
    apart
    routeLines s r name

/-- A body whose result is the only element of a stream. -/
def streamed (ctx : Plan.BodyContext) (body : List Core.Stmt) : Emit Unit := do
  head "async def resolve():" (block ctx body)
  line "yield await resolve()"

def resolverLines (r : Resolver) : Emit Unit := do
  let ps : List Param :=
    methodParams (r.params.map fun p => ⟨p.name, some (resolverType p.effectiveType), none⟩)
  let streams := r.operation = .subscription
  let result := if streams then "AsyncGenerator[JSON, None]" else "JSON"
  line (if streams then "@strawberry.subscription" else "@strawberry.field")
  head s!"async def {r.field}({paramTexts ps}) -> {result}:" do
    authLine r.auth
    injectionLines r.injections
    if streams then streamed .resolver r.body else block .resolver r.body

def graphQlSection (s : Service) : Emit Unit :=
  only (!s.resolvers.isEmpty) do
    let roots := Schema.rootOperations s
    each roots fun op => do
      apart
      line "@strawberry.type"
      head s!"class {Core.rootType op}:" do
        let resolvers := s.resolversOf op
        only resolvers.isEmpty do
          line "@strawberry.field"
          head s!"def {Schema.placeholderField}(self) -> str:" (line s!"return {doubleQuoted s.name}")
        spaced resolvers resolverLines
    apart
    let args := roots.map fun op => s!"{op.name}={Core.rootType op}"
    line ("schema = strawberry.Schema(" ++ join ", " args ++ ")")
    lines
      ["graphql_app = GraphQLRouter(schema)",
        "app.include_router(graphql_app, prefix=\"/graphql\")"]

def rpcMethodLines (p : RpcPlan) : Emit Unit :=
  head s!"async def {p.name}(self, request, context):" do
    match p.handler with
    | none => line "await context.abort(grpc.StatusCode.UNIMPLEMENTED, \"Not implemented\")"
    | some h =>
      authLine h.auth
      only (!Plan.streamsIn p.stream)
        (each h.params fun f => line s!"{f.name} = request.get({doubleQuoted f.name})")
      injectionLines h.injections
      if Plan.streamsOut p.stream then streamed (.rpc true) h.body
      else block (.rpc false) h.body

def rpcFactory : StreamMode → String
  | .unary => "unary_unary"
  | .serverStream => "unary_stream"
  | .clientStream => "stream_unary"
  | .bidirectional => "stream_stream"

def rpcServiceLines (s : Service) (d : RpcService) : Emit Unit := do
  let plans := Plan.rpcPlans d
  apart
  head s!"class {d.name}Servicer:" do
    line "\"\"\""
    lines (Schema.protoService s d).lines
    line "\"\"\""
    each plans fun p => do
      gap
      rpcMethodLines p
  apart
  head s!"def add_{Text.snakeCase d.name}_to_server(servicer, server):" do
    head "handlers = \x7b"
      (each plans fun p =>
        enclosed s!"{doubleQuoted p.name}: grpc.{rpcFactory p.stream}_rpc_method_handler("
          (lines
            [s!"servicer.{p.name},", "request_deserializer=_json_deserialize,",
              "response_serializer=_json_serialize,"])
          "),")
    line "\x7d"
    line
      s!"server.add_generic_rpc_handlers((grpc.method_handlers_generic_handler({doubleQuoted d.name}, handlers),))"

def rpcSection (s : Service) : Emit Unit :=
  only (!s.rpc.isEmpty) do
    head "def _json_deserialize(data: bytes) -> Any:"
      (line "return json.loads(data.decode(\"utf-8\")) if data else \x7b\x7d")
    apart
    head "def _json_serialize(value: Any) -> bytes:"
      (line "return json.dumps(jsonable_encoder(value)).encode(\"utf-8\")")
    each s.rpc (rpcServiceLines s)
    apart
    head "async def serve_grpc():" do
      line "server = grpc.aio.server()"
      each s.rpc fun d => line s!"add_{Text.snakeCase d.name}_to_server({d.name}Servicer(), server)"
      line ("server.add_insecure_port(\"[::]:" ++ toString Plan.rpcPort ++ "\")")
      lines ["await server.start()", "await server.wait_for_termination()"]
    apart
    line "@app.on_event(\"startup\")"
    head "async def start_grpc():" (line "asyncio.ensure_future(serve_grpc())")

/-- The functions that handle the stages of a socket. -/
def socketFunctions : List (SocketEvent × String) :=
  [(.connect, "on_connect()"), (.message, "on_message(message)"), (.disconnect, "on_disconnect()"),
    (.error, "on_error(error)")]

/-- Sends what a handler returns. -/
def replyLines (call : String) : Emit Unit := do
  line s!"reply = await {call}"
  head "if reply is not None:" (line "await websocket.send_json(jsonable_encoder(reply))")

def socketLines (socket : Socket) (name : String) : Emit Unit := do
  let ps : List Param :=
    ⟨"websocket", some "WebSocket", none⟩ ::
      (Plan.pathParams socket.path).map fun p => ⟨p, some "str", none⟩
  let handles (event : SocketEvent) : Bool := (socket.handler? event).isSome
  line s!"@app.websocket({doubleQuoted (Plan.bracePath socket.path)})"
  head s!"async def {name}({paramTexts ps}):" do
    line "client_id = str(uuid.uuid4())"
    each socketFunctions fun (event, signature) =>
      match socket.handler? event with
      | some h => do
        gap
        head s!"async def {signature}:" (block .socket h.body)
      | none => pure ()
    gap
    line "await websocket.accept()"
    line ("ws_connections.setdefault(" ++ doubleQuoted socket.path ++
      ", \x7b\x7d)[client_id] = websocket")
    head "try:" do
      only (handles .connect) (replyLines "on_connect()")
      head "while True:" do
        line "message = await websocket.receive_json()"
        only (handles .message) (replyLines "on_message(message)")
    head "except WebSocketDisconnect:" (line "pass")
    head "except Exception as error:"
      (line (if handles .error then "await on_error(error)" else "pass"))
    head "finally:" do
      line ("ws_connections.get(" ++ doubleQuoted socket.path ++ ", \x7b\x7d).pop(client_id, None)")
      only (handles .disconnect) (line "await on_disconnect()")

def socketSection (s : Service) : Emit Unit :=
  only (!s.sockets.isEmpty) do
    line "ws_connections: Dict[str, Dict[str, WebSocket]] = \x7b\x7d"
    apart
    head "async def broadcast(path: str, message: Any) -> None:"
      (head "for connection in list(ws_connections.get(path, \x7b\x7d).values()):"
        (line "await connection.send_json(jsonable_encoder(message))"))
    each (s.sockets.zip (Plan.socketNames s.sockets)) fun (socket, name) => do
      apart
      socketLines socket name

end ServiceCompiler.Python
