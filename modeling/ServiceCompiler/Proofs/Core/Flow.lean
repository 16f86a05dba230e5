import ServiceCompiler.Core.Tree

/-! # Statements in the flow of a body

The statements that control can come to in a body: those at any depth of conditions, loops and
switches. The bodies of lambdas and async blocks run on their own and are not among them. -/

namespace ServiceCompiler.Core

mutual

def Stmt.flow : Stmt → List Stmt
  | .assign target value => [.assign target value]
  | .reassign target value => [.reassign target value]
  | .ret value => [.ret value]
  | .cond condition thenBody elseBody =>
    .cond condition thenBody elseBody :: (Stmt.bodyFlow thenBody ++ Stmt.bodyFlow elseBody)
  | .forEach key value iterable body => .forEach key value iterable body :: Stmt.bodyFlow body
  | .whileLoop condition body => .whileLoop condition body :: Stmt.bodyFlow body
  | .switch value cases otherwise =>
    .switch value cases otherwise :: (Stmt.casesFlow cases ++ Stmt.bodyFlow otherwise)
  | .expr value => [.expr value]
  | .validate call => [.validate call]
  | .breakLoop => [.breakLoop]
  | .continueLoop => [.continueLoop]

def Stmt.bodyFlow : List Stmt → List Stmt
  | [] => []
  | s :: ss => s.flow ++ Stmt.bodyFlow ss

def Stmt.casesFlow : List SwitchCase → List Stmt
  | [] => []
  | ⟨_, body⟩ :: cs => Stmt.bodyFlow body ++ Stmt.casesFlow cs

end

namespace Stmt

def isReturn : Stmt → Bool
  | .ret _ => true
  | _ => false

def isValidation : Stmt → Bool
  | .validate _ => true
  | _ => false

def returns (body : List Stmt) : Nat := (bodyFlow body).countP isReturn

def validations (body : List Stmt) : Nat := (bodyFlow body).countP isValidation

theorem bodyFlow_eq (body : List Stmt) : bodyFlow body = body.flatMap flow := by
  induction body with
  | nil => rfl
  | cons s body ih => rw [bodyFlow, ih, List.flatMap_cons]

theorem casesFlow_eq (cs : List SwitchCase) :
    casesFlow cs = cs.flatMap fun c => bodyFlow c.body := by
  induction cs with
  | nil => rfl
  | cons c cs ih =>
    obtain ⟨value, body⟩ := c
    rw [casesFlow, ih, List.flatMap_cons]

/-- No statement does both. -/
theorem countP_return_or_validation (flow : List Stmt) :
    (flow.countP fun s => s.isReturn || s.isValidation) =
      flow.countP isReturn + flow.countP isValidation := by
  induction flow with
  | nil => rfl
  | cons s flow ih =>
    simp only [List.countP_cons, ih]
    cases s <;> simp [isReturn, isValidation] <;> omega

end Stmt

end ServiceCompiler.Core
