import ServiceCompiler.Core.Tree
import ServiceCompiler.Text.Words

/-! # Services

A service holds its record types, the dependencies it needs, and everything that it binds: routes,
events, jobs, queues, commands, functions, remote calls, resolvers, sockets and constants. -/

namespace ServiceCompiler.Core

/-- The dependencies that every target knows. -/
inductive StandardProvider
  | database | redis | mongoDb | llm
  deriving DecidableEq, Repr

namespace StandardProvider

def all : List StandardProvider := [database, redis, mongoDb, llm]

def typeName : StandardProvider → String
  | database => "Database"
  | redis => "Redis"
  | mongoDb => "MongoDB"
  | llm => "LLM"

def instanceName : StandardProvider → String
  | database => "db"
  | redis => "redis"
  | mongoDb => "mongo"
  | llm => "llm"

def ofTypeName? (name : String) : Option StandardProvider :=
  all.find? (·.typeName == name)

end StandardProvider

/-- The instance of a dependency is named after its type. -/
def instanceName (providerType : String) : String :=
  match StandardProvider.ofTypeName? providerType with
  | some standard => standard.instanceName
  | none => Text.snakeCase providerType

structure Signature where
  name : String
  params : List Field
  result : Ty
  deriving BEq

structure Provider where
  name : String
  type : String
  isStandard : Bool
  methods : List Signature
  deriving BEq

namespace Provider

def of (type : String) (methods : List Signature) : Provider :=
  ⟨instanceName type, type, (StandardProvider.ofTypeName? type).isSome, methods⟩

def standard? (p : Provider) : Option StandardProvider := StandardProvider.ofTypeName? p.type

end Provider

/-- The local name under which a binding uses a dependency. -/
structure Injection where
  name : String
  type : String
  deriving DecidableEq

structure Method where
  name : String
  params : List Field
  result : Ty
  body : List Stmt
  deriving BEq

structure Record where
  name : String
  fields : List Field
  typeParams : List String
  traits : List String
  methods : List Method
  deriving BEq

def Record.field? (r : Record) (name : String) : Option Field :=
  r.fields.find? (·.name == name)

structure QueryParam where
  name : String
  type : Ty
  required : Bool
  default : Option Expr
  isArray : Bool
  deriving BEq

structure Auth where
  scheme : String
  required : Bool
  roles : List String
  deriving DecidableEq

structure RateLimit where
  requests : UInt32
  window : String
  deriving DecidableEq

structure Middleware where
  name : String
  args : List Expr
  deriving BEq

structure Route where
  method : HttpMethod
  /-- Parameters are written `:name`. -/
  path : String
  pathParams : List String
  query : List QueryParam
  input : Option Ty
  result : Option Ty
  auth : Option Auth
  rateLimit : Option RateLimit
  middleware : List Middleware
  injections : List Injection
  body : List Stmt
  deriving BEq

def Route.display (r : Route) : String := s!"{r.method.name} {r.path}"

structure EventBinding where
  event : String
  isAsync : Bool
  injections : List Injection
  body : List Stmt
  deriving BEq

structure CronJob where
  name : String
  schedule : String
  timezone : Option String
  retries : UInt32
  injections : List Injection
  body : List Stmt
  deriving BEq

structure QueueBinding where
  queue : String
  concurrency : UInt32
  maxRetries : UInt32
  /-- In seconds. -/
  timeout : UInt32
  injections : List Injection
  body : List Stmt
  deriving BEq

structure CommandParam where
  name : String
  type : Ty
  required : Bool
  default : Option Expr
  isFlag : Bool
  deriving BEq

structure Command where
  name : String
  description : String
  params : List CommandParam
  result : Option Ty
  body : List Stmt
  deriving BEq

structure Function where
  name : String
  typeParams : List String
  params : List Field
  result : Option Ty
  body : List Stmt
  deriving BEq

structure RpcMethod where
  name : String
  input : Ty
  result : Ty
  stream : StreamMode
  deriving BEq

structure RpcHandler where
  service : String
  method : String
  params : List Field
  result : Option Ty
  stream : StreamMode
  auth : Option Auth
  injections : List Injection
  body : List Stmt
  deriving BEq

structure RpcService where
  name : String
  methods : List RpcMethod
  handlers : List RpcHandler
  deriving BEq

structure Resolver where
  operation : Operation
  field : String
  params : List Field
  result : Option Ty
  auth : Option Auth
  injections : List Injection
  body : List Stmt
  deriving BEq

structure SocketHandler where
  event : SocketEvent
  body : List Stmt
  deriving BEq

structure Socket where
  path : String
  handlers : List SocketHandler
  deriving BEq

def Socket.handler? (s : Socket) (event : SocketEvent) : Option SocketHandler :=
  s.handlers.find? (·.event == event)

structure Constant where
  name : String
  type : Option Ty
  value : Expr
  deriving BEq

structure Service where
  name : String
  records : List Record
  /-- One entry for each type of dependency, in the order of first use. -/
  providers : List Provider
  routes : List Route
  events : List EventBinding
  cronJobs : List CronJob
  queues : List QueueBinding
  commands : List Command
  functions : List Function
  rpc : List RpcService
  resolvers : List Resolver
  sockets : List Socket
  constants : List Constant
  deriving BEq

namespace Service

def empty (name : String) : Service :=
  ⟨name, [], [], [], [], [], [], [], [], [], [], [], []⟩

def provider? (s : Service) (type : String) : Option Provider :=
  s.providers.find? (·.type == type)

def uses (s : Service) (p : StandardProvider) : Bool := (s.provider? p.typeName).isSome

def resolversOf (s : Service) (op : Operation) : List Resolver :=
  s.resolvers.filter (·.operation == op)

def bindingCount (s : Service) : Nat :=
  s.routes.length + s.events.length + s.cronJobs.length + s.queues.length + s.commands.length +
    s.functions.length + s.rpc.length + s.resolvers.length + s.sockets.length

end Service

def rootType : Operation → String
  | .query => "Query"
  | .mutation => "Mutation"
  | .subscription => "Subscription"

end ServiceCompiler.Core
