import ServiceCompiler.Core.Tree
import ServiceCompiler.Distinct

/-! # Statement bodies -/

namespace ServiceCompiler.Plan

open ServiceCompiler.Core (Stmt SwitchCase)

/-- Where a body runs; this decides what returning means. Only a route turns a returned value into
a response on the wire, with the status of the route. A remote method may answer by a stream. -/
inductive BodyContext
  | route (status : Nat)
  | background
  | rpc (streams : Bool)
  | resolver
  | socket
  | function
  | command
  | closure
  deriving DecidableEq, Repr

/-- The status of the responses that a body gives by returning. -/
def BodyContext.status? : BodyContext → Option Nat
  | .route status => some status
  | _ => none

/-- Creating something is answered by 201. -/
def routeStatus : HttpMethod → Nat
  | .post => 201
  | _ => 200

/-- A body without the `break` at its end. -/
def withoutLastBreak : List Stmt → List Stmt
  | [] => []
  | [.breakLoop] => []
  | s :: ss => s :: withoutLastBreak ss

/-- Whether the last statement of a body passes control on to what stands behind the body. -/
def passesOn (body : List Stmt) : Bool :=
  match body.getLast? with
  | some s => !s.isTerminal
  | none => true

/-- Whether control can reach the end of a body. -/
def fallsThrough (body : List Stmt) : Bool :=
  match body.getLast? with
  | some (.ret _) => false
  | _ => true

mutual

/-- The variables that a statement assigns again, outside of lambdas and async blocks. -/
def reassignedIn : Stmt → List String
  | .reassign target _ => [target]
  | .cond _ thenBody elseBody => reassigned thenBody ++ reassigned elseBody
  | .forEach _ _ _ body => reassigned body
  | .whileLoop _ body => reassigned body
  | .switch _ cases otherwise => reassignedInCases cases ++ reassigned otherwise
  | .assign _ _ | .ret _ | .expr _ | .validate _ | .breakLoop | .continueLoop => []

def reassigned : List Stmt → List String
  | [] => []
  | s :: ss => reassignedIn s ++ reassigned ss

def reassignedInCases : List SwitchCase → List String
  | [] => []
  | ⟨_, body⟩ :: cs => reassigned body ++ reassignedInCases cs

end

/-- Names without repetitions, in alphabetical order. -/
def sortedNames (names : List String) : List String :=
  (distinct names).mergeSort (· ≤ ·)

end ServiceCompiler.Plan
