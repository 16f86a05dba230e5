import ServiceCompiler.Surface.Kind
import ServiceCompiler.Surface.Tree

/-! # The kind of a node

Messages name a node by the tag of its kind. -/

namespace ServiceCompiler.Surface

def Item.kind : Item → ItemKind
  | .moduleName _ => .moduleName
  | .importing _ _ => .importing
  | .typeDecl _ => .typeDecl
  | .route _ => .route
  | .function _ => .function
  | .cron _ => .cron
  | .event _ => .event
  | .queue _ => .queue
  | .command _ => .command
  | .rpcService _ => .rpcService
  | .rpcHandler _ => .rpcHandler
  | .resolver _ => .resolver
  | .socket _ => .socket
  | .constant _ => .constant
  | .contract _ => .contract
  | .test _ _ => .test
  | .macroDecl _ _ _ => .macroDecl
  | .traitDecl _ _ => .traitDecl
  | .staticRoute _ _ => .staticRoute
  | .unsupported => .unsupported

def Stmt.kind : Stmt → StmtKind
  | .assign _ _ => .assign
  | .reassign _ _ => .reassign
  | .ret _ => .ret
  | .cond _ _ _ => .cond
  | .forEach _ _ _ _ => .forEach
  | .whileLoop _ _ => .whileLoop
  | .switch _ _ _ => .switch
  | .expr _ => .expr
  | .validate _ => .validate
  | .breakLoop => .breakLoop
  | .continueLoop => .continueLoop
  | .dbQuery _ _ => .dbQuery
  | .wsSend _ _ => .wsSend
  | .wsBroadcast _ _ => .wsBroadcast
  | .wsClose _ => .wsClose
  | .macroInvocation _ _ => .macroInvocation
  | .unsupported => .unsupported

def Expr.kind : Expr → ExprKind
  | .literal _ => .literal
  | .var _ => .var
  | .binary _ _ _ => .binary
  | .unary _ _ => .unary
  | .field _ _ => .field
  | .index _ _ => .index
  | .call _ _ _ => .call
  | .object _ => .object
  | .array _ => .array
  | .lambda _ _ _ => .lambda
  | .pipe _ _ => .pipe
  | .matchOn _ _ => .matchOn
  | .async _ => .async
  | .await _ => .await
  | .quote _ => .quote
  | .unquote _ => .unquote
  | .unsupported => .unsupported

/-- The word that messages use for a declaration. -/
def Item.keyword (item : Item) : String := item.kind.tag

def Stmt.keyword (stmt : Stmt) : String := stmt.kind.tag

def Expr.keyword (expr : Expr) : String := expr.kind.tag

end ServiceCompiler.Surface
