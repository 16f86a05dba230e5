import ServiceCompiler.Plan.Path
import ServiceCompiler.Schema.GraphQl
import ServiceCompiler.Schema.Proto
import ServiceCompiler.Target.TypeScriptProvider

/-! # TypeScript routes, resolvers, remote methods and sockets -/

namespace ServiceCompiler.TypeScript

open ServiceCompiler.Core (Service Route QueryParam Resolver RpcService Socket)
open Plan (RpcPlan)
open Source (Emit)
open Source.Emit (line lines gap nest each only braces enclosed)
open Text (join singleQuoted)

/-- Binds a parameter of the query. -/
def queryLines (q : QueryParam) : Emit Unit := do
  let raw := s!"req.query.{q.name}"
  let converted :=
    if q.isArray then s!"([] as any[]).concat({raw} ?? [])" else convertText raw q.type
  match q.default with
  | some value =>
    line s!"const {q.name} = {raw} !== undefined ? {converted} : {← expr false value};"
  | none =>
    if q.required then do
      let message := singleQuoted s!"Missing query parameter {q.name}"
      braces s!"if ({raw} === undefined)"
        (line s!"return res.status(400).json(\x7b error: {message} \x7d);") ""
      line s!"const {q.name} = {converted};"
    else line s!"const {q.name} = {raw} !== undefined ? {converted} : undefined;"

def inputType (s : Service) : Core.Ty → String
  | .named name => if Schema.isDeclared s name then name else "any"
  | _ => "any"

def routeLines (s : Service) (r : Route) : Emit Unit := do
  authLine r.auth
  match r.rateLimit with
  | some l => line s!"// Rate limited: {l.requests} requests per {l.window}"
  | none => pure ()
  each r.middleware fun m => line s!"// Middleware: {m.name}"
  braces
    s!"app.{Plan.httpVerb r.method}({singleQuoted r.path}, async (req: Request, res: Response) =>"
    (do
      each r.pathParams fun name => line s!"const {name} = req.params.{name};"
      each r.query queryLines
      match r.input with
      | some t => line s!"const input: {inputType s t} = req.body;"
      | none => pure ()
      injectionLines r.injections
      body (.route (Plan.routeStatus r.method)) r.body
      only (Plan.fallsThrough r.body) (line "if (!res.headersSent) res.status(204).end();"))
    ");"

def routesSection (s : Service) : Emit Unit :=
  each s.routes fun r => do
    gap
    routeLines s r

/-- Binds the arguments of a resolver and its dependencies. -/
def resolverBindings (r : Resolver) : Emit Unit := do
  authLine r.auth
  each r.params fun p => line s!"const {p.name} = args.{p.name};"
  injectionLines r.injections

def resolverLines (r : Resolver) : Emit Unit :=
  if r.operation = .subscription then
    braces s!"{r.field}:"
      (braces "subscribe: async function* (_parent: any, args: any)"
        (do
          resolverBindings r
          braces "const resolve = async (): Promise<any> =>" (body .resolver r.body) ";"
          line s!"yield \x7b {r.field}: await resolve() \x7d;")
        ",")
      ","
  else
    braces s!"{r.field}: async (_parent: any, args: any) =>"
      (do
        resolverBindings r
        body .resolver r.body)
      ","

def graphQlSection (s : Service) : Emit Unit :=
  only (!s.resolvers.isEmpty) do
    line "const typeDefs = `#graphql"
    lines ((Text.lines (Schema.graphQl s)).map (Text.replaceAll "`" "\\`"))
    line "`;"
    gap
    braces "const resolvers ="
      (each (Schema.rootOperations s) fun op =>
        braces s!"{Core.rootType op}:"
          (do
            let resolvers := s.resolversOf op
            only resolvers.isEmpty
              (line s!"{Schema.placeholderField}: () => {singleQuoted s.name},")
            each resolvers resolverLines)
          ",")
      ";"
    gap
    line "const apolloServer = new ApolloServer(\x7b typeDefs, resolvers \x7d);"

def notImplemented (streams : Bool) : String :=
  let error := "\x7b code: grpc.status.UNIMPLEMENTED, message: 'Not implemented' \x7d"
  if streams then s!"call.emit('error', {error});" else s!"callback({error});"

def rpcMethodLines (p : RpcPlan) : Emit Unit := do
  let streams := Plan.streamsOut p.stream
  let key := Text.lowerCamelCase p.name
  let signature := if streams then "(call: any)" else "(call: any, callback: any)"
  match p.handler with
  | none => braces s!"{key}: {signature} =>" (line (notImplemented streams)) ","
  | some h =>
    braces s!"{key}: async {signature} =>"
      (do
        authLine h.auth
        only (!Plan.streamsIn p.stream)
          (each h.params fun f => line s!"const {f.name} = call.request.{f.name};")
        injectionLines h.injections
        body (.rpc streams) h.body
        only (Plan.fallsThrough h.body)
          (line (if streams then "call.end();" else "callback(null, \x7b\x7d);")))
      ","

def rpcHandlers (d : RpcService) : String := s!"{Text.lowerCamelCase d.name}Handlers"

def rpcServiceLines (s : Service) (d : RpcService) : Emit Unit := do
  gap
  line "/*"
  lines (Schema.protoService s d).lines
  line "*/"
  braces s!"const {rpcHandlers d} =" (each (Plan.rpcPlans d) rpcMethodLines) ";"

def rpcSection (s : Service) : Emit Unit :=
  only (!s.rpc.isEmpty) do
    let segments := (Text.splitAt '/' (Schema.protoPath s)).map singleQuoted
    line ("const PROTO_PATH = path.join(__dirname, '..', " ++ join ", " segments ++ ");")
    braces "const packageDefinition = protoLoader.loadSync(PROTO_PATH,"
      (lines
        ["keepCase: true,", "longs: String,", "enums: String,", "defaults: true,", "oneofs: true,"])
      ");"
    line "const grpcPackage = grpc.loadPackageDefinition(packageDefinition) as any;"
    each s.rpc (rpcServiceLines s)
    gap
    let address := s!"0.0.0.0:{Plan.rpcPort}"
    braces "function startGrpcServer(): void"
      (do
        line "const grpcServer = new grpc.Server();"
        each s.rpc fun d =>
          line s!"grpcServer.addService(grpcPackage.{d.name}.service, {rpcHandlers d});"
        braces
          s!"grpcServer.bindAsync({singleQuoted address}, grpc.ServerCredentials.createInsecure(), (err: Error | null) =>"
          (do
            braces "if (err)" (lines ["console.error(err);", "return;"]) ""
            line ("console.log(" ++ singleQuoted s!"gRPC server listening on {address}" ++ ");"))
          ");")
      ""

/-- The functions that handle the stages of a socket. -/
def socketFunctions : List (SocketEvent × String) :=
  [(.connect, "onConnect = async (): Promise<any>"),
    (.message, "onMessage = async (message: any): Promise<any>"),
    (.disconnect, "onDisconnect = async (): Promise<any>"),
    (.error, "onError = async (error: Error): Promise<any>")]

def socketLines (socket : Socket) (server : String) : Emit Unit := do
  let key := singleQuoted socket.path
  let handles (event : SocketEvent) : Bool := (socket.handler? event).isSome
  line s!"const {server} = new WebSocketServer(\x7b noServer: true \x7d);"
  braces
    s!"{server}.on('connection', async (socket: WebSocket, params: Record<string, string>) =>"
    (do
      line "const clientId = randomUUID();"
      each (Plan.pathParams socket.path) fun name => line s!"const {name} = params.{name};"
      each socketFunctions fun (event, signature) =>
        match socket.handler? event with
        | some h => braces s!"const {signature} =>" (body .socket h.body) ";"
        | none => pure ()
      braces "const reply = (value: any) =>"
        (line "if (value !== undefined && value !== null) socket.send(JSON.stringify(value));") ";"
      gap
      line s!"if (!wsConnections.has({key})) wsConnections.set({key}, new Map());"
      line s!"wsConnections.get({key})?.set(clientId, socket);"
      only (handles .connect) (line "reply(await onConnect());")
      braces "socket.on('message', async (raw) =>"
        (do
          lines ["let message: any;", "try \x7b"]
          nest (line "message = JSON.parse(raw.toString());")
          line "\x7d catch \x7b"
          nest (line "message = raw.toString();")
          line "\x7d"
          only (handles .message) (line "reply(await onMessage(message));"))
        ");"
      braces "socket.on('close', async () =>"
        (do
          line s!"wsConnections.get({key})?.delete(clientId);"
          only (handles .disconnect) (line "await onDisconnect();"))
        ");"
      braces "socket.on('error', async (error: Error) =>"
        (line (if handles .error then "await onError(error);" else "console.error(error);"))
        ");")
    ");"

/-- Hands a connection over to the server of its path. -/
def upgradeLines (path server : String) : Emit Unit := do
  line s!"const {server}Params = matchPath({singleQuoted path}, pathname);"
  braces s!"if ({server}Params)"
    (lines
      [s!"{server}.handleUpgrade(request, netSocket, head, (socket) => {server}.emit('connection', socket, {server}Params));",
        "return;"])
    ""

def matchPathLines : Emit Unit :=
  braces
    "function matchPath(pattern: string, pathname: string): Record<string, string> | null"
    (do
      lines
        ["const expected = pattern.split('/');", "const actual = pathname.split('/');",
          "if (expected.length !== actual.length) return null;",
          "const params: Record<string, string> = \x7b\x7d;"]
      braces "for (let i = 0; i < expected.length; i++)"
        (lines
          ["if (expected[i].startsWith(':')) params[expected[i].slice(1)] = decodeURIComponent(actual[i]);",
            "else if (expected[i] !== actual[i]) return null;"])
        ""
      line "return params;")
    ""

def socketSection (s : Service) : Emit Unit :=
  only (!s.sockets.isEmpty) do
    line "const wsConnections = new Map<string, Map<string, WebSocket>>();"
    gap
    braces "function broadcast(path: string, message: any): void"
      (braces "for (const connection of wsConnections.get(path)?.values() ?? [])"
        (line "connection.send(JSON.stringify(message));") "")
      ""
    gap
    matchPathLines
    let servers := s.sockets.zip ((Plan.socketNames s.sockets).map handlerName)
    each servers fun (socket, server) => do
      gap
      socketLines socket server
    gap
    braces "server.on('upgrade', (request, netSocket, head) =>"
      (do
        line "const pathname = new URL(request.url ?? '/', 'http://localhost').pathname;"
        each servers fun (socket, server) => upgradeLines socket.path server
        line "netSocket.destroy();")
      ");"

end ServiceCompiler.TypeScript
