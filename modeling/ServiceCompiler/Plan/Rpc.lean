import ServiceCompiler.Core.Service
import ServiceCompiler.Distinct

/-! # Plans of remote methods -/

namespace ServiceCompiler.Plan

open ServiceCompiler.Core (RpcService RpcMethod RpcHandler Ty)

/-- A method of a remote service with the handler that implements it. -/
structure RpcPlan where
  name : String
  input : Ty
  result : Ty
  stream : StreamMode
  handler : Option RpcHandler

def handlerOf (s : RpcService) (method : String) : Option RpcHandler :=
  s.handlers.find? (·.method == method)

def declaredPlan (s : RpcService) (m : RpcMethod) : RpcPlan :=
  ⟨m.name, m.input, m.result, m.stream, handlerOf s m.name⟩

def handlerPlan (h : RpcHandler) : RpcPlan :=
  ⟨h.method, .any, h.result.getD .any, h.stream, some h⟩

/-- The declared methods, then the methods that only have a handler. -/
def rpcPlans (s : RpcService) : List RpcPlan :=
  firsts (·.name) (s.methods.map (declaredPlan s) ++ s.handlers.map handlerPlan)

/-- Whether one side sends more than one message. -/
def isStreaming : StreamMode → Bool
  | .unary => false
  | _ => true

/-- Whether the answer may hold more than one message. -/
def streamsOut : StreamMode → Bool
  | .serverStream | .bidirectional => true
  | .unary | .clientStream => false

/-- Whether the request may hold more than one message. -/
def streamsIn : StreamMode → Bool
  | .clientStream | .bidirectional => true
  | .unary | .serverStream => false

def rpcPort : Nat := 50051

end ServiceCompiler.Plan
