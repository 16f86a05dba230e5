import ServiceCompiler.Core.Await
import ServiceCompiler.Plan.Body
import ServiceCompiler.Plan.Call
import ServiceCompiler.Source.Emit
import ServiceCompiler.Target.TypeScriptType

/-! # TypeScript bodies

As in every target, what an expression cannot hold is written ahead of the statement that needs it.
A variable is declared by `let` if the body assigns it again, and by `const` otherwise. -/

namespace ServiceCompiler.TypeScript

open ServiceCompiler.Core (Expr Stmt MatchCase SwitchCase ObjectField LambdaBody)
open Plan (BodyContext Arm Case MatchPlan)
open Source (Emit)
open Source.Emit (line nest capture write fresh each braces)
open Text (join singleQuoted)

/-- Where a statement stands: its context and the variables that the body around it assigns again. -/
structure Scope where
  context : BodyContext
  reassigned : List String

def Scope.of (ctx : BodyContext) (body : List Stmt) : Scope := ⟨ctx, Plan.reassigned body⟩

def Scope.declare (sc : Scope) (name : String) : String :=
  if sc.reassigned.contains name then "let" else "const"

def asyncText (awaits : Bool) : String := if awaits then "async " else ""

/-- A call, given the texts of all its arguments. -/
def callText (name : String) (args : List Expr) (texts : List String) : String :=
  match Plan.classify name args, texts with
  | .method _ _ _, receiver :: rest => receiver ++ "." ++ name ++ "(" ++ join ", " rest ++ ")"
  | _, _ => name ++ "(" ++ join ", " texts ++ ")"

/-- A unary operation; two minus signs never meet. -/
def unaryText (op : UnaryOp) (operand : String) : String :=
  if operand.startsWith "-" then s!"{Core.unarySymbol op}({operand})"
  else s!"{Core.unarySymbol op}{operand}"

def returnTexts (ctx : BodyContext) (value : String) : List String :=
  match ctx with
  | .route 201 => [s!"return res.status(201).json({value});"]
  | .route _ => [s!"return res.json({value});"]
  | .rpc true => [s!"call.write({value});", "return call.end();"]
  | .rpc false => [s!"return callback(null, {value});"]
  | _ => [s!"return {value};"]

def validationText (ctx : BodyContext) : String :=
  match ctx.status? with
  | some _ => "return res.status(400).json(\x7b error: 'Validation failed' \x7d);"
  | none => "throw new Error('Validation failed');"

def paramsText (params : List Core.Field) : String :=
  join ", " (params.map fun p => s!"{p.name}: {typeText p.type}")

/-- What an arm does once its checks have passed. -/
def armBody (arm : Arm (Emit String)) : Emit Unit := do
  each arm.bounds fun b => line s!"const {b.name} = {subjectAt b.path};"
  match arm.guard with
  | some guard =>
    let guard ← guard
    braces s!"if ({guard})" (do line s!"return {← arm.body};") ""
  | none => line s!"return {← arm.body};"

def armLines (arm : Arm (Emit String)) : Emit Unit := do
  line (if arm.checks.isEmpty then "\x7b"
    else "if (" ++ join " && " (arm.checks.map checkText) ++ ") \x7b")
  nest (armBody arm)
  line "\x7d"

def planLines (plan : MatchPlan (Emit String)) : Emit Unit := do
  each plan.arms armLines
  match plan.default with
  | some arm => armBody arm
  | none => line "return null;"

mutual

/-- The text of an expression; `bare` leaves the parentheses of an outermost `await` away. -/
def expr (bare : Bool) : Expr → Emit String
  | .int n => return toString n.toInt
  | .float x => return floatText x
  | .string s => return singleQuoted s
  | .bool b => return toString b
  | .null => return "null"
  | .var name => return name
  | .binary op left right => do
    let left ← expr false left
    let right ← expr false right
    return s!"({left} {binaryText op} {right})"
  | .unary op operand => do return unaryText op (← expr false operand)
  | .field target name => do return s!"{← expr false target}.{name}"
  | .index target position => do
    let target ← expr false target
    let position ← expr false position
    return s!"{target}[{position}]"
  | .call name _ args => do return callText name args (← exprs args)
  | .object fields => do return objectText (← objectFields fields)
  | .array elements => do return "[" ++ join ", " (← exprs elements) ++ "]"
  | .lambda params (.expr body) => do
    let (value, ahead) ← capture (nest (expr false body))
    let start := s!"{asyncText body.awaits}({paramsText params}) =>"
    if ahead.isEmpty then return s!"({start} {value})"
    else
      let name ← fresh "lambda"
      line s!"const {name} = {start} \x7b"
      write ahead
      nest (line s!"return {value};")
      line "\x7d;"
      return name
  | .lambda params (.block body) => do
    let name ← fresh "lambda"
    braces s!"const {name} = {asyncText (Stmt.bodyAwaits body)}({paramsText params}) =>"
      (block (.of .closure body) body) ";"
    return name
  | .pipe left (.call name _ args) => do
    let left ← expr false left
    return name ++ "(" ++ join ", " (left :: (← exprs args)) ++ ")"
  | .pipe left right =>
    match Plan.dottedName right with
    | some name => do return s!"{name}({← expr false left})"
    | none => do
      let callee ← expr false right
      return s!"({callee})({← expr false left})"
  | .matchOn value cases => do
    let value ← expr false value
    let name ← fresh "match"
    let awaits := Expr.casesAwait cases
    braces s!"const {name} = {asyncText awaits}(__subject: any): any =>"
      (planLines (Plan.planMatch (matchCases cases))) ";"
    return if awaits then s!"(await {name}({value}))" else s!"{name}({value})"
  | .async body => do
    let name ← fresh "async"
    braces s!"const {name} = async (): Promise<any> =>" (block (.of .closure body) body) ";"
    return s!"{name}()"
  | .await e => do
    let text ← expr false e
    return if bare then s!"await {text}" else s!"(await {text})"

def exprs : List Expr → Emit (List String)
  | [] => return []
  | e :: es => do
    let e ← expr false e
    return e :: (← exprs es)

def objectFields : List ObjectField → Emit (List String)
  | [] => return []
  | ⟨key, value⟩ :: fs => do
    let value ← expr false value
    return s!"{keyText key}: {value}" :: (← objectFields fs)

/-- The cases of a match with the emissions of their guards and bodies. -/
def matchCases : List MatchCase → List (Case (Emit String))
  | [] => []
  | ⟨pattern, none, body⟩ :: cs => ⟨pattern, none, expr true body⟩ :: matchCases cs
  | ⟨pattern, some guard, body⟩ :: cs =>
    ⟨pattern, some (expr false guard), expr true body⟩ :: matchCases cs

def stmt (sc : Scope) : Stmt → Emit Unit
  | .assign target value => do line s!"{sc.declare target} {target} = {← expr true value};"
  | .reassign target value => do line s!"{target} = {← expr true value};"
  | .ret value => do Source.Emit.lines (returnTexts sc.context (← expr true value))
  | .cond condition thenBody elseBody => do
    line s!"if ({← expr true condition}) \x7b"
    nest (block sc thenBody)
    match elseBody with
    | [] => line "\x7d"
    | s :: ss =>
      line "\x7d else \x7b"
      nest (block sc (s :: ss))
      line "\x7d"
  | .forEach key value iterable body => do
    let iterable ← expr false iterable
    let text :=
      match key with
      | some key => s!"for ({sc.declare value} [{key}, {value}] of ({iterable}).entries())"
      | none => s!"for ({sc.declare value} {value} of {iterable})"
    braces text (block sc body) ""
  | .whileLoop condition body => do
    let condition ← expr true condition
    braces s!"while ({condition})" (block sc body) ""
  | .switch value cases otherwise => do
    let value ← expr true value
    let labels ← caseLabels cases
    line s!"switch ({value}) \x7b"
    nest (caseLines sc cases labels)
    match otherwise with
    | [] => pure ()
    | s :: ss => nest (braces "default:" (block sc (s :: ss)) "")
    line "\x7d"
  | .expr .null => line "// no-op"
  | .expr e => do line s!"{← expr true e};"
  | .validate call => do
    let call ← expr false call
    braces s!"if (!({call}))" (line (validationText sc.context)) ""
  | .breakLoop => line "break;"
  | .continueLoop => line "continue;"

/-- A body of statements; an empty one is a remark. -/
def block (sc : Scope) : List Stmt → Emit Unit
  | [] => line "// no-op"
  | s :: ss => do
    stmt sc s
    stmts sc ss

def stmts (sc : Scope) : List Stmt → Emit Unit
  | [] => pure ()
  | s :: ss => do
    stmt sc s
    stmts sc ss

/-- A body of statements without its last `break`. -/
def caseBlock (sc : Scope) : List Stmt → Emit Unit
  | [] => line "// no-op"
  | [.breakLoop] => line "// no-op"
  | s :: ss => do
    stmt sc s
    caseStmts sc ss

def caseStmts (sc : Scope) : List Stmt → Emit Unit
  | [] => pure ()
  | [.breakLoop] => pure ()
  | s :: ss => do
    stmt sc s
    caseStmts sc ss

def caseLabels : List SwitchCase → Emit (List String)
  | [] => return []
  | ⟨value, _⟩ :: cs => do
    let value ← expr false value
    return value :: (← caseLabels cs)

/-- The cases of a switch, each ended by a statement that leaves it. -/
def caseLines (sc : Scope) : List SwitchCase → List String → Emit Unit
  | ⟨_, body⟩ :: cs, label :: labels => do
    line s!"case {label}: \x7b"
    nest (caseBlock sc body)
    Source.Emit.only (Plan.passesOn (Plan.withoutLastBreak body)) (nest (line "break;"))
    line "\x7d"
    caseLines sc cs labels
  | _, _ => pure ()

end

/-- The statements of a body of their own. -/
def body (ctx : BodyContext) (ss : List Stmt) : Emit Unit := block (.of ctx ss) ss

end ServiceCompiler.TypeScript
