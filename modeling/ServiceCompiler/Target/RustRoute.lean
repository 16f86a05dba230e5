import ServiceCompiler.Plan.Path
import ServiceCompiler.Schema.GraphQl
import ServiceCompiler.Schema.Proto
import ServiceCompiler.Target.RustProvider

/-! # Rust routes, resolvers, remote methods and sockets -/

namespace ServiceCompiler.Rust

open ServiceCompiler.Core (Service Route QueryParam Resolver RpcService Socket)
open Plan (RpcPlan)
open Source (Emit)
open Source.Emit (line lines gap nest each only braces spaced)
open Text (join doubleQuoted)

def bootstrapSection : Emit Unit :=
  braces "fn not_found() -> Response"
    (line
      "(StatusCode::NOT_FOUND, Json(json!(\x7b \"error\": \"Not found\" \x7d))).into_response()")
    ""

/-- A value that may be missing: it has a default, it must be there, or it is null. `refusal` says
what happens if it has to be there and is not. -/
def optionalLines (env : Env) (name lookup : String) (default : Option Core.Expr) (required : Bool)
    (refusal : List String) : Emit Unit := do
  match default with
  | some value =>
    let term ← expr env .outer value
    line s!"let {name} = {lookup}.unwrap_or_else(|| {term.owned});"
  | none =>
    if required then braces s!"let Some({name}) = {lookup} else" (lines refusal) ";"
    else line s!"let {name} = {lookup}.unwrap_or(Value::Null);"

def queryLines (env : Env) (q : QueryParam) : Emit Unit :=
  optionalLines env (ident q.name)
    ("query.get(" ++ doubleQuoted q.name ++ ").map(|v| " ++ parseText "v" q.type ++ ")") q.default
    q.required [badRequest s!"Missing query parameter {q.name}"]

/-- The record that the input of a route is read as; it must not be generic. -/
def inputRecord? (s : Service) (t : Core.Ty) : Option String :=
  match t with
  | .named name =>
    match s.records.find? (·.name == name) with
    | some r => if r.typeParams.isEmpty then some name else none
    | none => none
  | _ => none

def pathExtractor (names : List String) : List String :=
  match names with
  | [] => []
  | [name] => [s!"Path({ident name}): Path<String>"]
  | names =>
    ["Path((" ++ join ", " (names.map ident) ++ ")): Path<(" ++
      join ", " (names.map fun _ => "String") ++ ")>"]

def extractors (s : Service) (r : Route) : List String :=
  pathExtractor r.pathParams ++
    (if r.query.isEmpty then [] else ["Query(query): Query<HashMap<String, String>>"]) ++
    (r.input.map fun t => "Json(input): Json<" ++ (inputRecord? s t).getD "Value" ++ ">").toList

def routeLines (env : Env) (s : Service) (r : Route) (name : String) : Emit Unit := do
  authLine r.auth
  match r.rateLimit with
  | some l => line s!"// Rate limited: {l.requests} requests per {l.window}"
  | none => pure ()
  each r.middleware fun m => line s!"// Middleware: {m.name}"
  braces ("async fn " ++ name ++ "(" ++ join ", " (extractors s r) ++ ") -> Response")
    (do
      each r.pathParams fun p => line s!"let {ident p} = json!({ident p});"
      each r.query (queryLines env)
      only (r.input.any fun t => (inputRecord? s t).isSome)
        (line "let input = serde_json::to_value(input).unwrap_or_default();")
      handlerLines env r.injections (.route (Plan.routeStatus r.method)) r.body)
    ""

def routesSection (env : Env) (s : Service) : Emit Unit :=
  each (s.routes.zip (Plan.routeNames s.routes)) fun (r, name) => do
    gap
    routeLines env s r name

def resolverNames (rs : List Resolver) : List String :=
  Plan.uniqueNames (rs.map fun r => "resolve_" ++ Text.snakeCase r.field)

def resolverLines (env : Env) (r : Resolver) (name : String) : Emit Unit := do
  authLine r.auth
  braces s!"async fn {name}({paramsText r.params}) -> Value"
    (handlerLines env r.injections .resolver r.body) ""
  gap

/-- A parameter of a resolver; its name is given where it would be changed otherwise. -/
def resolverParam (name : String) : String :=
  let renamed :=
    if Text.snakeCase name == name && Text.lowerCamelCase name != name then
      s!"#[graphql(name = {doubleQuoted name})] "
    else ""
  s!"{renamed}{ident name}: async_graphql::Json<Value>"

def rootFieldLines (r : Resolver) (name : String) : Emit Unit := do
  let ps := join ", " ("&self" :: r.params.map fun p => resolverParam p.name)
  let args := join ", " (r.params.map fun p => s!"{ident p.name}.0")
  let method := ident (Text.snakeCase r.field)
  line s!"#[graphql(name = {doubleQuoted r.field})]"
  if r.operation = .subscription then
    braces
      s!"async fn {method}({ps}) -> impl futures::Stream<Item = async_graphql::Json<Value>>"
      (line
        s!"futures::stream::once(async move \x7b async_graphql::Json({name}({args}).await) \x7d)")
      ""
  else
    braces s!"async fn {method}({ps}) -> async_graphql::Json<Value>"
      (line s!"async_graphql::Json({name}({args}).await)") ""

def rootLines (s : Service) (op : Operation) (resolvers : List (Resolver × String)) :
    Emit Unit := do
  let root := s!"{Core.rootType op}Root"
  line s!"pub struct {root};"
  gap
  line (if op = .subscription then "#[Subscription]" else "#[Object]")
  braces s!"impl {root}"
    (do
      only resolvers.isEmpty do
        line ("#[graphql(name = \"" ++ Schema.placeholderField ++ "\")]")
        braces "async fn service_name(&self) -> &'static str" (line (doubleQuoted s.name)) ""
      spaced resolvers fun (r, name) => rootFieldLines r name)
    ""
  gap

def graphQlSection (env : Env) (s : Service) : Emit Unit :=
  only (!s.resolvers.isEmpty) do
    let resolvers := s.resolvers.zip (resolverNames s.resolvers)
    each resolvers fun (r, name) => resolverLines env r name
    each (Schema.rootOperations s) fun op =>
      rootLines s op (resolvers.filter fun (r, _) => r.operation = op)
    let root (op : Operation) : String :=
      if (s.resolversOf op).isEmpty then s!"Empty{Core.rootType op}" else s!"{Core.rootType op}Root"
    line s!"pub type AppSchema = Schema<QueryRoot, {root .mutation}, {root .subscription}>;"
    gap
    braces "fn build_schema() -> AppSchema"
      (line s!"Schema::build(QueryRoot, {root .mutation}, {root .subscription}).finish()") ""

def streamRemark : StreamMode → List String
  | .unary => []
  | .serverStream => ["// server streaming"]
  | .clientStream => ["// client streaming"]
  | .bidirectional => ["// bidirectional streaming"]

def rpcMethodLines (env : Env) (p : RpcPlan) : Emit Unit := do
  lines (streamRemark p.stream)
  let header :=
    s!"pub async fn {ident (Text.snakeCase p.name)}(&self, request: Value) -> Result<Value, Status>"
  match p.handler with
  | none => braces header (line "Err(Status::unimplemented(\"Not implemented\"))") ""
  | some h =>
    authLine h.auth
    braces header
      (do
        fieldBindings "request" (h.params.map (·.name))
        handlerLines env h.injections (.rpc (Plan.streamsOut p.stream)) h.body)
      ""

def rpcServiceLines (env : Env) (s : Service) (d : RpcService) : Emit Unit := do
  line "/*"
  lines (Schema.protoService s d).lines
  line "*/"
  line "#[derive(Debug, Clone, Default)]"
  line s!"pub struct {d.name}Handlers;"
  gap
  braces s!"impl {d.name}Handlers" (spaced (Plan.rpcPlans d) (rpcMethodLines env)) ""

def rpcSection (env : Env) (s : Service) : Emit Unit := spaced s.rpc (rpcServiceLines env s)

/-- The functions that handle the stages of a socket, with the parameter of their own. -/
def socketFunctions : List (SocketEvent × List String) :=
  [(.connect, []), (.message, ["message"]), (.disconnect, []), (.error, ["error"])]

def socketFunctionLines (env : Env) (socket : Socket) (name : String) (params : List String)
    (event : SocketEvent) (own : List String) : Emit Unit :=
  match socket.handler? event with
  | some h => do
    let ps := join ", " ((own ++ params).map fun p => s!"{p}: Value")
    braces s!"async fn {name}_on_{event.name}({ps}) -> Value" (body env .outer .socket h.body) ""
    gap
  | none => pure ()

def upgradeLines (name : String) (hasParams : Bool) : Emit Unit :=
  if hasParams then
    braces
      s!"async fn {name}(ws: WebSocketUpgrade, Path(params): Path<HashMap<String, String>>) -> Response"
      (line s!"ws.on_upgrade(move |socket| {name}_session(socket, params))") ""
  else
    braces s!"async fn {name}(ws: WebSocketUpgrade) -> Response"
      (line s!"ws.on_upgrade(move |socket| {name}_session(socket, HashMap::new()))") ""

/-- Writes what is sent to a client. -/
def writerLines : Emit Unit := do
  braces "let writer = tokio::spawn(async move"
    (braces "while let Some(message) = rx.recv().await"
      (braces "if sink.send(message).await.is_err()" (line "break;") "") "")
    ");"
  braces "let reply = |value: Value|"
    (braces "if !value.is_null()" (line "let _ = tx.send(Message::Text(value.to_string()));") "") ";"

def sessionLines (socket : Socket) (name : String) (params : List String) : Emit Unit := do
  let key := doubleQuoted socket.path
  let handles (event : SocketEvent) : Bool := (socket.handler? event).isSome
  let hook (event : SocketEvent) (own : List String) : String :=
    s!"{name}_on_{event.name}(" ++ join ", " (own ++ params.map fun p => s!"{ident p}.clone()") ++
      ").await"
  each params fun p =>
    line s!"let {ident p} = json!(params.get({doubleQuoted p}).cloned().unwrap_or_default());"
  lines
    ["let client_id = Uuid::new_v4();", "let (mut sink, mut stream) = socket.split();",
      "let (tx, mut rx) = tokio::sync::mpsc::unbounded_channel::<Message>();"]
  braces "if let Ok(mut registry) = ws_connections().lock()"
    (line s!"registry.entry({key}.to_string()).or_default().insert(client_id, tx.clone());") ""
  writerLines
  gap
  only (handles .connect) (line s!"reply({hook .connect []});")
  braces "while let Some(frame) = stream.next().await"
    (do
      braces "let message = match frame"
        (do
          lines
            ["Ok(Message::Text(text)) => serde_json::from_str(&text).unwrap_or(Value::String(text)),",
              "Ok(Message::Close(_)) => break,", "Ok(_) => continue,"]
          braces "Err(err) =>"
            (do
              line (if handles .error then hook .error ["json!(err.to_string())"] ++ ";"
                else "tracing::warn!(error = %err, \"websocket error\");")
              line "break;")
            "")
        ";"
      only (handles .message) (line ("reply(" ++ hook .message ["message"] ++ ");")))
    ""
  gap
  braces "if let Ok(mut registry) = ws_connections().lock()"
    (braces s!"if let Some(peers) = registry.get_mut({key})" (line "peers.remove(&client_id);") "")
    ""
  only (handles .disconnect) (line (hook .disconnect [] ++ ";"))
  line "writer.abort();"

def socketLines (env : Env) (socket : Socket) (name : String) : Emit Unit := do
  let params := Plan.pathParams socket.path
  each socketFunctions fun (event, own) =>
    socketFunctionLines env socket name (params.map ident) event own
  upgradeLines name (!params.isEmpty)
  gap
  braces s!"async fn {name}_session(socket: WebSocket, params: HashMap<String, String>)"
    (sessionLines socket name params) ""

def broadcastLines : Emit Unit :=
  braces "async fn broadcast(path: Value, message: Value) -> Value"
    (do
      lines ["let path = rt::text(&path);", "let text = message.to_string();"]
      braces "if let Ok(registry) = ws_connections().lock()"
        (braces
          "for sender in registry.get(&path).into_iter().flat_map(|peers| peers.values())"
          (line "let _ = sender.send(Message::Text(text.clone()));") "")
        ""
      line "Value::Null")
    ""

def socketSection (env : Env) (s : Service) : Emit Unit :=
  only (!s.sockets.isEmpty) do
    line "type Peers = HashMap<Uuid, tokio::sync::mpsc::UnboundedSender<Message>>;"
    gap
    line "static WS_CONNECTIONS: OnceLock<Mutex<HashMap<String, Peers>>> = OnceLock::new();"
    gap
    braces "fn ws_connections() -> &'static Mutex<HashMap<String, Peers>>"
      (line "WS_CONNECTIONS.get_or_init(Default::default)") ""
    gap
    broadcastLines
    each (s.sockets.zip (Plan.socketNames s.sockets)) fun (socket, name) => do
      gap
      socketLines env socket name

end ServiceCompiler.Rust
