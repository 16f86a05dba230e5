import ServiceCompiler.Vocabulary

/-! # Programs as they are written

A program is a list of declarations. Every family of nodes has a member `unsupported` for nodes of
a kind that this compiler does not know. -/

namespace ServiceCompiler.Surface

inductive Ty
  | int
  | float
  | string
  | bool
  | array (element : Ty)
  | optional (inner : Ty)
  | named (name : String)
  | database
  | redis
  | mongoDb
  | llm
  | union (types : List Ty)
  | generic (base : Ty) (args : List Ty)
  | function (params : List Ty) (result : Option Ty)
  | future (result : Ty)
  | typeParam (name : String)
  | unsupported
  deriving Inhabited

mutual

inductive Pattern
  | literal (value : Literal)
  | variable (name : String)
  | wildcard
  | object (fields : List PatternField)
  | array (elements : List Pattern) (rest : Option String)
  | unsupported

/-- A key without a pattern binds the field to a variable of the same name. -/
structure PatternField where
  key : String
  pattern : Option Pattern

end

/-- A remark on a field, such as a least length. -/
structure Decorator where
  name : String
  params : List Literal

mutual

inductive Expr
  | literal (value : Literal)
  | var (name : String)
  | binary (op : BinaryOp) (left right : Expr)
  | unary (op : UnaryOp) (operand : Expr)
  | field (object : Expr) (field : String)
  | index (object index : Expr)
  /-- A receiver stands in front of the other arguments. -/
  | call (name : String) (typeArgs : List Ty) (args : List Expr)
  | object (fields : List ObjectField)
  | array (elements : List Expr)
  | lambda (params : List Field) (body : Option Expr) (block : List Stmt)
  | pipe (left right : Expr)
  | matchOn (value : Expr) (cases : List MatchCase)
  | async (body : List Stmt)
  | await (expr : Expr)
  | quote (body : List Stmt)
  | unquote (expr : Expr)
  | unsupported

inductive Stmt
  | assign (target : String) (value : Expr)
  | reassign (target : String) (value : Expr)
  | ret (value : Option Expr)
  | cond (condition : Expr) (thenBlock elseBlock : List Stmt)
  | forEach (key : Option String) (value : String) (iterable : Expr) (body : List Stmt)
  | whileLoop (condition : Expr) (body : List Stmt)
  | switch (value : Expr) (cases : List SwitchCase) (otherwise : List Stmt)
  | expr (expr : Expr)
  | validate (call : Expr)
  | breakLoop
  | continueLoop
  | dbQuery (query : String) (params : List Expr)
  | wsSend (client message : Expr)
  | wsBroadcast (message : Expr) (room : Option Expr)
  | wsClose (reason : Option Expr)
  | macroInvocation (name : String) (args : List Expr)
  | unsupported

/-- A field of a record, or a parameter. -/
structure Field where
  name : String
  type : Option Ty
  required : Bool
  default : Option Expr
  decorators : List Decorator

structure ObjectField where
  key : String
  value : Expr

structure MatchCase where
  pattern : Pattern
  guard : Option Expr
  body : Expr

structure SwitchCase where
  value : Expr
  body : List Stmt

end

structure Method where
  name : String
  params : List Field
  result : Option Ty
  body : List Stmt

structure TypeDecl where
  name : String
  typeParams : List String
  traits : List String
  fields : List Field
  methods : List Method

structure Auth where
  scheme : String
  required : Bool
  roles : List String
  deriving DecidableEq

structure RateLimit where
  requests : UInt32
  window : String
  deriving DecidableEq

structure Middleware where
  name : String
  args : List Expr

structure Injection where
  name : String
  type : Option Ty

structure QueryParam where
  name : String
  type : Option Ty
  required : Bool
  default : Option Expr
  isArray : Bool

structure Route where
  method : HttpMethod
  path : String
  input : Option Ty
  result : Option Ty
  auth : Option Auth
  rateLimit : Option RateLimit
  middleware : List Middleware
  injections : List Injection
  query : List QueryParam
  body : List Stmt

structure Function where
  name : String
  typeParams : List String
  params : List Field
  result : Option Ty
  body : List Stmt

structure CronJob where
  name : String
  schedule : String
  timezone : Option String
  retries : UInt32
  injections : List Injection
  body : List Stmt

structure EventHandler where
  event : String
  isAsync : Bool
  injections : List Injection
  body : List Stmt

structure QueueWorker where
  queue : String
  concurrency : UInt32
  maxRetries : UInt32
  timeout : UInt32
  injections : List Injection
  body : List Stmt

structure CommandParam where
  name : String
  type : Option Ty
  required : Bool
  default : Option Expr
  isFlag : Bool

structure Command where
  name : String
  description : String
  params : List CommandParam
  result : Option Ty
  body : List Stmt

structure RpcMethod where
  name : String
  input : Option Ty
  result : Option Ty
  stream : StreamMode

structure RpcService where
  name : String
  methods : List RpcMethod

structure RpcHandler where
  service : String
  method : String
  params : List Field
  result : Option Ty
  stream : StreamMode
  auth : Option Auth
  injections : List Injection
  body : List Stmt

structure Resolver where
  operation : Operation
  field : String
  params : List Field
  result : Option Ty
  auth : Option Auth
  injections : List Injection
  body : List Stmt

structure SocketHandler where
  event : SocketEvent
  body : List Stmt

structure SocketRoute where
  path : String
  handlers : List SocketHandler

structure Constant where
  name : String
  type : Option Ty
  value : Option Expr

structure ContractMethod where
  name : String
  params : List Field
  result : Option Ty

/-- The method signatures of a dependency of the program's own. -/
structure Contract where
  name : String
  methods : List ContractMethod

inductive Item
  | moduleName (name : String)
  | importing (path : String) (shortName : Option String)
  | typeDecl (decl : TypeDecl)
  | route (route : Route)
  | function (function : Function)
  | cron (job : CronJob)
  | event (handler : EventHandler)
  | queue (worker : QueueWorker)
  | command (command : Command)
  | rpcService (service : RpcService)
  | rpcHandler (handler : RpcHandler)
  | resolver (resolver : Resolver)
  | socket (route : SocketRoute)
  | constant (constant : Constant)
  | contract (contract : Contract)
  | test (name : String) (body : List Stmt)
  | macroDecl (name : String) (params : List String) (body : List Stmt)
  | traitDecl (name : String) (methods : List ContractMethod)
  | staticRoute (path dir : String)
  | unsupported

structure Program where
  items : List Item

/-- The name that the program's first module declaration gives. -/
def Program.moduleName? (p : Program) : Option String :=
  p.items.findSome? fun
    | .moduleName name => some name
    | _ => none

end ServiceCompiler.Surface
