import ServiceCompiler.Core.Await
import ServiceCompiler.Plan.Body
import ServiceCompiler.Plan.Call
import ServiceCompiler.Source.Emit
import ServiceCompiler.Target.PythonType

/-! # Python bodies

Statements become statements one by one. What an expression cannot hold, a match, an async block or
a lambda with a body of its own, is written as a function ahead of the statement that needs it. -/

namespace ServiceCompiler.Python

open ServiceCompiler.Core (Expr Stmt MatchCase SwitchCase ObjectField LambdaBody)
open Plan (BodyContext CallShape Case Arm MatchPlan)
open Source (Emit)
open Source.Emit (line nest capture write fresh head each)
open Text (join doubleQuoted)

def defText (awaits : Bool) : String := if awaits then "async def" else "def"

/-- A call, given the texts of all its arguments. -/
def callText (name : String) (args : List Expr) (texts : List String) : String :=
  match Plan.classify name args, texts with
  | .method _ _ _, receiver :: rest => receiver ++ "." ++ name ++ "(" ++ join ", " rest ++ ")"
  | _, _ => name ++ "(" ++ join ", " texts ++ ")"

def returnText (ctx : BodyContext) (value : String) : String :=
  match ctx.status? with
  | some 201 => s!"return JSONResponse(status_code=201, content=jsonable_encoder({value}))"
  | some _ => s!"return JSONResponse(content=jsonable_encoder({value}))"
  | none => s!"return {value}"

def validationText (ctx : BodyContext) : String :=
  match ctx.status? with
  | some _ => "raise HTTPException(status_code=400, detail=\"Validation failed\")"
  | none => "raise ValueError(\"Validation failed\")"

/-- A lambda with a single expression that needs nothing ahead of it. -/
def lambdaText (params value : String) : String :=
  if params.isEmpty then s!"(lambda: {value})" else s!"(lambda {params}: {value})"

/-- What an arm does once its checks have passed. -/
def armBody (arm : Arm (Emit String)) : Emit Unit := do
  each arm.bounds fun b => line s!"{b.name} = {subjectAt b.path}"
  match arm.guard with
  | some guard => head s!"if {← guard}:" do line s!"return {← arm.body}"
  | none => line s!"return {← arm.body}"

def armLines (arm : Arm (Emit String)) : Emit Unit :=
  if arm.checks.isEmpty then armBody arm
  else head ("if " ++ join " and " (arm.checks.map checkText) ++ ":") (armBody arm)

def planLines (plan : MatchPlan (Emit String)) : Emit Unit := do
  each plan.arms armLines
  match plan.default with
  | some arm => armBody arm
  | none => line "return None"

mutual

/-- The text of an expression; `bare` leaves the parentheses of an outermost `await` away. -/
def expr (bare : Bool) : Expr → Emit String
  | .int n => return toString n.toInt
  | .float x => return floatText x
  | .string s => return doubleQuoted s
  | .bool b => return boolText b
  | .null => return "None"
  | .var name => return name
  | .binary op left right => do
    let left ← expr false left
    let right ← expr false right
    return s!"({left} {binaryText op} {right})"
  | .unary .not operand => do return s!"(not {← expr false operand})"
  | .unary .neg operand => do return s!"-{← expr false operand}"
  | .field target name => do return s!"{← expr false target}.{name}"
  | .index target position => do
    let target ← expr false target
    let position ← expr false position
    return s!"{target}[{position}]"
  | .call name _ args => do return callText name args (← exprs args)
  | .object fields => do return Core.braced (join ", " (← objectFields fields))
  | .array elements => do return "[" ++ join ", " (← exprs elements) ++ "]"
  | .lambda params (.expr body) => do
    let params := join ", " (params.map (·.name))
    let (value, ahead) ← capture (nest (expr false body))
    if ahead.isEmpty && !body.awaits then return lambdaText params value
    else
      let name ← fresh "lambda"
      line s!"{defText body.awaits} {name}({params}):"
      write ahead
      nest (line s!"return {value}")
      return name
  | .lambda params (.block body) => do
    let params := join ", " (params.map (·.name))
    let name ← fresh "lambda"
    head s!"{defText (Stmt.bodyAwaits body)} {name}({params}):" (block .closure body)
    return name
  | .pipe left (.call name _ args) => do
    let left ← expr false left
    return name ++ "(" ++ join ", " (left :: (← exprs args)) ++ ")"
  | .pipe left right =>
    match Plan.dottedName right with
    | some name => do return s!"{name}({← expr false left})"
    | none => do
      let callee ← expr false right
      return s!"({callee})({← expr false left})"
  | .matchOn value cases => do
    let value ← expr false value
    let name ← fresh "match"
    let awaits := Expr.casesAwait cases
    head s!"{defText awaits} {name}(__subject):" (planLines (Plan.planMatch (matchCases cases)))
    return if awaits then s!"(await {name}({value}))" else s!"{name}({value})"
  | .async body => do
    let name ← fresh "async"
    head s!"async def {name}():" (block .closure body)
    return s!"asyncio.ensure_future({name}())"
  | .await e => do
    let text ← expr false e
    return if bare then s!"await {text}" else s!"(await {text})"

def exprs : List Expr → Emit (List String)
  | [] => return []
  | e :: es => do
    let e ← expr false e
    return e :: (← exprs es)

def objectFields : List ObjectField → Emit (List String)
  | [] => return []
  | ⟨key, value⟩ :: fs => do
    let value ← expr false value
    return s!"{doubleQuoted key}: {value}" :: (← objectFields fs)

/-- The cases of a match with the emissions of their guards and bodies. -/
def matchCases : List MatchCase → List (Case (Emit String))
  | [] => []
  | ⟨pattern, none, body⟩ :: cs => ⟨pattern, none, expr true body⟩ :: matchCases cs
  | ⟨pattern, some guard, body⟩ :: cs =>
    ⟨pattern, some (expr false guard), expr true body⟩ :: matchCases cs

def stmt (ctx : BodyContext) : Stmt → Emit Unit
  | .assign target value => do line s!"{target} = {← expr true value}"
  | .reassign target value => do line s!"{target} = {← expr true value}"
  | .ret value => do line (returnText ctx (← expr true value))
  | .cond condition thenBody elseBody => do
    head s!"if {← expr true condition}:" (block ctx thenBody)
    match elseBody with
    | [] => pure ()
    | s :: ss => head "else:" (block ctx (s :: ss))
  | .forEach key value iterable body => do
    let iterable ← expr false iterable
    let text :=
      match key with
      | some key => s!"for {key}, {value} in enumerate({iterable}):"
      | none => s!"for {value} in {iterable}:"
    head text (block ctx body)
  | .whileLoop condition body => do
    head s!"while {← expr true condition}:" (block ctx body)
  | .switch value cases otherwise => do
    let subject ← fresh "switch"
    let value ← expr true value
    let labels ← caseLabels cases
    line s!"{subject} = {value}"
    caseLines ctx subject "if" cases labels
    match otherwise with
    | [] => pure ()
    | [.breakLoop] => pure ()
    | s :: ss =>
      if cases.isEmpty then caseBlock ctx (s :: ss) else head "else:" (caseBlock ctx (s :: ss))
  | .expr .null => line "pass"
  | .expr e => do line (← expr true e)
  | .validate call => do
    head s!"if not {← expr false call}:" (line (validationText ctx))
  | .breakLoop => line "break"
  | .continueLoop => line "continue"

/-- A body of statements; an empty one is `pass`. -/
def block (ctx : BodyContext) : List Stmt → Emit Unit
  | [] => line "pass"
  | s :: ss => do
    stmt ctx s
    stmts ctx ss

def stmts (ctx : BodyContext) : List Stmt → Emit Unit
  | [] => pure ()
  | s :: ss => do
    stmt ctx s
    stmts ctx ss

/-- A body of statements without its last `break`. -/
def caseBlock (ctx : BodyContext) : List Stmt → Emit Unit
  | [] => line "pass"
  | [.breakLoop] => line "pass"
  | s :: ss => do
    stmt ctx s
    caseStmts ctx ss

def caseStmts (ctx : BodyContext) : List Stmt → Emit Unit
  | [] => pure ()
  | [.breakLoop] => pure ()
  | s :: ss => do
    stmt ctx s
    caseStmts ctx ss

def caseLabels : List SwitchCase → Emit (List String)
  | [] => return []
  | ⟨value, _⟩ :: cs => do
    let value ← expr false value
    return value :: (← caseLabels cs)

/-- The cases of a switch as a chain of conditions. -/
def caseLines (ctx : BodyContext) (subject keyword : String) :
    List SwitchCase → List String → Emit Unit
  | ⟨_, body⟩ :: cs, label :: labels => do
    head s!"{keyword} {subject} == {label}:" (caseBlock ctx body)
    caseLines ctx subject "elif" cs labels
  | _, _ => pure ()

end

end ServiceCompiler.Python
