/-! # Kinds of nodes

The kinds of each family in their order of declaration, with the tags that documents give them.
A tag without a kind of its own is read as the family's last kind, `unsupported`. -/

namespace ServiceCompiler.Surface

inductive ItemKind
  | moduleName | importing | typeDecl | route | function | cron | event | queue | command
  | rpcService | rpcHandler | resolver | socket | constant | contract | test | macroDecl
  | traitDecl | staticRoute | unsupported
  deriving DecidableEq, Repr

def ItemKind.all : List ItemKind :=
  [.moduleName, .importing, .typeDecl, .route, .function, .cron, .event, .queue, .command,
    .rpcService, .rpcHandler, .resolver, .socket, .constant, .contract, .test, .macroDecl,
    .traitDecl, .staticRoute, .unsupported]

def ItemKind.tag : ItemKind → String
  | .moduleName => "module"
  | .importing => "import"
  | .typeDecl => "type_def"
  | .route => "route"
  | .function => "function"
  | .cron => "cron"
  | .event => "event"
  | .queue => "queue"
  | .command => "command"
  | .rpcService => "grpc_service"
  | .rpcHandler => "grpc_handler"
  | .resolver => "graphql"
  | .socket => "websocket"
  | .constant => "const"
  | .contract => "provider"
  | .test => "test"
  | .macroDecl => "macro_def"
  | .traitDecl => "trait"
  | .staticRoute => "static_route"
  | .unsupported => "unsupported"

inductive TyKind
  | int | float | string | bool | array | optional | named | database | redis | mongoDb | llm
  | union | generic | function | future | typeParam | unsupported
  deriving DecidableEq, Repr

def TyKind.all : List TyKind :=
  [.int, .float, .string, .bool, .array, .optional, .named, .database, .redis, .mongoDb, .llm,
    .union, .generic, .function, .future, .typeParam, .unsupported]

def TyKind.tag : TyKind → String
  | .int => "int"
  | .float => "float"
  | .string => "string"
  | .bool => "bool"
  | .array => "array"
  | .optional => "optional"
  | .named => "named"
  | .database => "database"
  | .redis => "redis"
  | .mongoDb => "mongodb"
  | .llm => "llm"
  | .union => "union"
  | .generic => "generic"
  | .function => "function"
  | .future => "future"
  | .typeParam => "type_param"
  | .unsupported => "unsupported"

inductive StmtKind
  | assign | reassign | ret | cond | forEach | whileLoop | switch | expr | validate | breakLoop
  | continueLoop | dbQuery | wsSend | wsBroadcast | wsClose | macroInvocation | unsupported
  deriving DecidableEq, Repr

def StmtKind.all : List StmtKind :=
  [.assign, .reassign, .ret, .cond, .forEach, .whileLoop, .switch, .expr, .validate, .breakLoop,
    .continueLoop, .dbQuery, .wsSend, .wsBroadcast, .wsClose, .macroInvocation, .unsupported]

def StmtKind.tag : StmtKind → String
  | .assign => "assign"
  | .reassign => "reassign"
  | .ret => "return"
  | .cond => "if"
  | .forEach => "for"
  | .whileLoop => "while"
  | .switch => "switch"
  | .expr => "expr"
  | .validate => "validate"
  | .breakLoop => "break"
  | .continueLoop => "continue"
  | .dbQuery => "db_query"
  | .wsSend => "ws_send"
  | .wsBroadcast => "ws_broadcast"
  | .wsClose => "ws_close"
  | .macroInvocation => "macro_invocation"
  | .unsupported => "unsupported"

inductive ExprKind
  | literal | var | binary | unary | field | index | call | object | array | lambda | pipe
  | matchOn | async | await | quote | unquote | unsupported
  deriving DecidableEq, Repr

def ExprKind.all : List ExprKind :=
  [.literal, .var, .binary, .unary, .field, .index, .call, .object, .array, .lambda, .pipe,
    .matchOn, .async, .await, .quote, .unquote, .unsupported]

def ExprKind.tag : ExprKind → String
  | .literal => "literal"
  | .var => "var"
  | .binary => "binary"
  | .unary => "unary"
  | .field => "field"
  | .index => "index"
  | .call => "call"
  | .object => "object"
  | .array => "array"
  | .lambda => "lambda"
  | .pipe => "pipe"
  | .matchOn => "match"
  | .async => "async"
  | .await => "await"
  | .quote => "quote"
  | .unquote => "unquote"
  | .unsupported => "unsupported"

inductive PatternKind
  | literal | variable | wildcard | object | array | unsupported
  deriving DecidableEq, Repr

def PatternKind.all : List PatternKind :=
  [.literal, .variable, .wildcard, .object, .array, .unsupported]

def PatternKind.tag : PatternKind → String
  | .literal => "literal"
  | .variable => "variable"
  | .wildcard => "wildcard"
  | .object => "object"
  | .array => "array"
  | .unsupported => "unsupported"

inductive Kind
  | item (kind : ItemKind)
  | ty (kind : TyKind)
  | stmt (kind : StmtKind)
  | expr (kind : ExprKind)
  | pattern (kind : PatternKind)
  deriving DecidableEq, Repr

def Kind.tag : Kind → String
  | .item kind => kind.tag
  | .ty kind => kind.tag
  | .stmt kind => kind.tag
  | .expr kind => kind.tag
  | .pattern kind => kind.tag

inductive Family
  | item | ty | stmt | expr | pattern
  deriving DecidableEq, Repr

namespace Family

def name : Family → String
  | item => "Item"
  | ty => "Type"
  | stmt => "Stmt"
  | expr => "Expr"
  | pattern => "Pattern"

def kinds : Family → List Kind
  | item => ItemKind.all.map .item
  | ty => TyKind.all.map .ty
  | stmt => StmtKind.all.map .stmt
  | expr => ExprKind.all.map .expr
  | pattern => PatternKind.all.map .pattern

def unsupported : Family → Kind
  | item => .item .unsupported
  | ty => .ty .unsupported
  | stmt => .stmt .unsupported
  | expr => .expr .unsupported
  | pattern => .pattern .unsupported

end Family

/-- How a document names a kind: by its tag, or by its position among the kinds of the family. -/
inductive Tag
  | name (s : String)
  | position (n : Nat)
  deriving DecidableEq, Repr

def Family.kindOf (family : Family) : Tag → Kind
  | .name s => (family.kinds.find? (·.tag == s)).getD family.unsupported
  | .position n => family.kinds[n]?.getD family.unsupported

end ServiceCompiler.Surface
