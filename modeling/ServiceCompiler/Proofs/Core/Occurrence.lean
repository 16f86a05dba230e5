import ServiceCompiler.Core.Service

/-! # What occurs in a service

The types, fields, expressions and statements of a service, at any depth. The parts of a node are
those directly inside it; what occurs in a service is reached from its declarations over parts. -/

namespace ServiceCompiler.Core

inductive Node
  | ty (t : Ty)
  | field (f : Field)
  | expr (e : Expr)
  | stmt (s : Stmt)

def typeNode? (t : Option Ty) : List Node := t.toList.map .ty

def exprNode? (e : Option Expr) : List Node := e.toList.map .expr

def Ty.parts : Ty → List Ty
  | .int | .float | .string | .bool | .any | .named _ | .provider _ => []
  | .array element => [element]
  | .optional inner => [inner]
  | .future result => [result]
  | .union members => members
  | .generic _ args => args
  | .function params result => params ++ [result]

def Field.parts (f : Field) : List Node := .ty f.type :: exprNode? f.default

def MatchCase.parts (c : MatchCase) : List Node := exprNode? c.guard ++ [.expr c.body]

def LambdaBody.parts : LambdaBody → List Node
  | .expr body => [.expr body]
  | .block body => body.map .stmt

def SwitchCase.parts (c : SwitchCase) : List Node := .expr c.value :: c.body.map .stmt

def Expr.parts : Expr → List Node
  | .int _ | .float _ | .string _ | .bool _ | .null | .var _ => []
  | .binary _ left right | .pipe left right => [.expr left, .expr right]
  | .unary _ operand => [.expr operand]
  | .field target _ => [.expr target]
  | .index target position => [.expr target, .expr position]
  | .call _ typeArgs args => typeArgs.map .ty ++ args.map .expr
  | .object fields => fields.map fun f => .expr f.value
  | .array elements => elements.map .expr
  | .lambda params body => params.map .field ++ body.parts
  | .matchOn value cases => .expr value :: cases.flatMap MatchCase.parts
  | .async body => body.map .stmt
  | .await inner => [.expr inner]

def Stmt.parts : Stmt → List Node
  | .assign _ value | .reassign _ value | .ret value | .expr value | .validate value =>
    [.expr value]
  | .cond condition thenBody elseBody =>
    .expr condition :: (thenBody.map .stmt ++ elseBody.map .stmt)
  | .forEach _ _ iterable body => .expr iterable :: body.map .stmt
  | .whileLoop condition body => .expr condition :: body.map .stmt
  | .switch value cases otherwise =>
    .expr value :: (cases.flatMap SwitchCase.parts ++ otherwise.map .stmt)
  | .breakLoop | .continueLoop => []

namespace Node

def parts : Node → List Node
  | ty t => t.parts.map ty
  | field f => f.parts
  | expr e => e.parts
  | stmt s => s.parts

/-- A node inside another one, at any depth; every node is inside itself. -/
inductive Inside (n : Node) : Node → Prop
  | here : Inside n n
  | part {outer part : Node} (hPart : part ∈ outer.parts) (hInside : Inside n part) :
      Inside n outer

/-- A property that goes from a node to its parts goes to everything inside. -/
theorem Inside.induct {P : Node → Prop} (hStep : ∀ n m, P n → m ∈ n.parts → P m) {n root : Node}
    (hInside : Inside n root) (hRoot : P root) : P n := by
  induction hInside with
  | here => exact hRoot
  | part hPart _ ih => exact ih (hStep _ _ hRoot hPart)

end Node

/-! ## The nodes of declarations -/

def Signature.nodes (s : Signature) : List Node := s.params.map .field ++ [.ty s.result]

def Method.nodes (m : Method) : List Node :=
  m.params.map .field ++ .ty m.result :: m.body.map .stmt

def Record.nodes (r : Record) : List Node := r.fields.map .field ++ r.methods.flatMap Method.nodes

def Provider.nodes (p : Provider) : List Node := p.methods.flatMap Signature.nodes

def QueryParam.nodes (q : QueryParam) : List Node := .ty q.type :: exprNode? q.default

def Route.nodes (r : Route) : List Node :=
  r.query.flatMap QueryParam.nodes ++ typeNode? r.input ++ typeNode? r.result ++
    (r.middleware.flatMap fun m => m.args.map .expr) ++ r.body.map .stmt

def CommandParam.nodes (p : CommandParam) : List Node := .ty p.type :: exprNode? p.default

def Command.nodes (c : Command) : List Node :=
  c.params.flatMap CommandParam.nodes ++ typeNode? c.result ++ c.body.map .stmt

def Function.nodes (f : Function) : List Node :=
  f.params.map .field ++ typeNode? f.result ++ f.body.map .stmt

def RpcMethod.nodes (m : RpcMethod) : List Node := [.ty m.input, .ty m.result]

def RpcHandler.nodes (h : RpcHandler) : List Node :=
  h.params.map .field ++ typeNode? h.result ++ h.body.map .stmt

def RpcService.nodes (s : RpcService) : List Node :=
  s.methods.flatMap RpcMethod.nodes ++ s.handlers.flatMap RpcHandler.nodes

def Resolver.nodes (r : Resolver) : List Node :=
  r.params.map .field ++ typeNode? r.result ++ r.body.map .stmt

def Socket.nodes (s : Socket) : List Node := s.handlers.flatMap fun h => h.body.map .stmt

def Constant.nodes (c : Constant) : List Node := typeNode? c.type ++ [.expr c.value]

namespace Service

/-- The nodes directly inside the declarations of a service. -/
def nodes (s : Service) : List Node :=
  s.records.flatMap Record.nodes ++ s.providers.flatMap Provider.nodes ++
    s.routes.flatMap Route.nodes ++ (s.events.flatMap fun e => e.body.map .stmt) ++
    (s.cronJobs.flatMap fun j => j.body.map .stmt) ++
    (s.queues.flatMap fun q => q.body.map .stmt) ++ s.commands.flatMap Command.nodes ++
    s.functions.flatMap Function.nodes ++ s.rpc.flatMap RpcService.nodes ++
    s.resolvers.flatMap Resolver.nodes ++ s.sockets.flatMap Socket.nodes ++
    s.constants.flatMap Constant.nodes

def Has (s : Service) (n : Node) : Prop := ∃ root ∈ s.nodes, n.Inside root

end Service

end ServiceCompiler.Core
