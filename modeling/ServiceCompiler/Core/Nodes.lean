import ServiceCompiler.Core.Tree

/-! # Nodes of expressions and bodies

All expressions inside an expression or a body, itself included, in the order of the text. Default
values of lambda parameters are not part of the body they stand in. -/

namespace ServiceCompiler.Core

mutual

def Expr.nodes : Expr → List Expr
  | e@(.binary _ left right) => e :: (left.nodes ++ right.nodes)
  | e@(.pipe left right) => e :: (left.nodes ++ right.nodes)
  | e@(.unary _ operand) => e :: operand.nodes
  | e@(.field target _) => e :: target.nodes
  | e@(.index target position) => e :: (target.nodes ++ position.nodes)
  | e@(.call _ _ args) => e :: Expr.listNodes args
  | e@(.object fields) => e :: Expr.fieldNodes fields
  | e@(.array elements) => e :: Expr.listNodes elements
  | e@(.lambda _ body) => e :: LambdaBody.nodes body
  | e@(.matchOn value cases) => e :: (value.nodes ++ Expr.caseNodes cases)
  | e@(.async body) => e :: Stmt.bodyNodes body
  | e@(.await inner) => e :: inner.nodes
  | .int n => [.int n]
  | .float x => [.float x]
  | .string s => [.string s]
  | .bool b => [.bool b]
  | .null => [.null]
  | .var name => [.var name]

def Expr.listNodes : List Expr → List Expr
  | [] => []
  | e :: es => e.nodes ++ Expr.listNodes es

def Expr.fieldNodes : List ObjectField → List Expr
  | [] => []
  | ⟨_, value⟩ :: fs => value.nodes ++ Expr.fieldNodes fs

def Expr.caseNodes : List MatchCase → List Expr
  | [] => []
  | ⟨_, none, body⟩ :: cs => body.nodes ++ Expr.caseNodes cs
  | ⟨_, some guard, body⟩ :: cs => guard.nodes ++ body.nodes ++ Expr.caseNodes cs

def LambdaBody.nodes : LambdaBody → List Expr
  | .expr body => body.nodes
  | .block body => Stmt.bodyNodes body

def Stmt.nodes : Stmt → List Expr
  | .assign _ value => value.nodes
  | .reassign _ value => value.nodes
  | .ret value => value.nodes
  | .expr value => value.nodes
  | .validate call => call.nodes
  | .cond condition thenBody elseBody =>
    condition.nodes ++ Stmt.bodyNodes thenBody ++ Stmt.bodyNodes elseBody
  | .forEach _ _ iterable body => iterable.nodes ++ Stmt.bodyNodes body
  | .whileLoop condition body => condition.nodes ++ Stmt.bodyNodes body
  | .switch value cases otherwise =>
    value.nodes ++ Stmt.caseNodes cases ++ Stmt.bodyNodes otherwise
  | .breakLoop => []
  | .continueLoop => []

def Stmt.bodyNodes : List Stmt → List Expr
  | [] => []
  | s :: ss => s.nodes ++ Stmt.bodyNodes ss

def Stmt.caseNodes : List SwitchCase → List Expr
  | [] => []
  | ⟨value, body⟩ :: cs => value.nodes ++ Stmt.bodyNodes body ++ Stmt.caseNodes cs

end

end ServiceCompiler.Core
