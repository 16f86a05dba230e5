import ServiceCompiler.Plan.Body
import ServiceCompiler.Plan.Callable
import ServiceCompiler.Plan.Usage
import ServiceCompiler.Source.Emit
import ServiceCompiler.Target.RustType

/-! # Rust bodies

Every expression becomes a `Value`; the operators are functions of the module `rt`. A condition is
a `bool` and becomes a `Value` only where one is asked for. As in every target, what an expression
cannot hold is written ahead of the statement that needs it. -/

namespace ServiceCompiler.Rust

open ServiceCompiler.Core (Expr Stmt MatchCase SwitchCase ObjectField LambdaBody Field Injection)
open Plan (BodyContext Arm Case MatchPlan Callable)
open Source (Emit)
open Source.Emit (line nest capture write fresh each only braces)
open Text (join doubleQuoted)

inductive ConstantKind
  /-- A constant of a primitive type. -/
  | literal
  /-- A `Value` made at the first use. -/
  | lazy
  /-- A lambda, written as a function. -/
  | function
  deriving DecidableEq, Repr

def constantKind : Expr → ConstantKind
  | .lambda _ _ => .function
  | .int _ | .float _ | .string _ | .bool _ => .literal
  | _ => .lazy

structure Scope where
  context : BodyContext
  /-- The variables that the body around assigns again. -/
  reassigned : List String
  /-- The variables that hold a closure. -/
  closures : List String
  injections : List Injection
  inMethod : Bool

namespace Scope

/-- The scope of a body on its own. -/
def outer : Scope := ⟨.function, [], [], [], false⟩

def provider? (sc : Scope) (name : String) : Option String :=
  Plan.injectedType? sc.injections name

/-- Whether a name stands for the record whose method is written. -/
def isReceiver (sc : Scope) (name : String) : Bool :=
  sc.inMethod && (name == "self" || name == "this")

def inner (sc : Scope) (ctx : BodyContext) (body : List Stmt) : Scope :=
  { sc with context := ctx, reassigned := Plan.reassigned body }

def pattern (sc : Scope) (name : String) : String :=
  if sc.reassigned.contains name then s!"mut {ident name}" else ident name

end Scope

mutual

/-- The variables that a statement binds to closures, which are known behind it. -/
def closuresIn : Stmt → List String
  | .assign target (.lambda _ _) => [target]
  | .cond _ thenBody elseBody => closuresOf thenBody ++ closuresOf elseBody
  | .forEach _ _ _ body => closuresOf body
  | .whileLoop _ body => closuresOf body
  | .switch _ cases otherwise => closuresOfCases cases ++ closuresOf otherwise
  | .assign _ _ | .reassign _ _ | .ret _ | .expr _ | .validate _ | .breakLoop | .continueLoop => []

def closuresOf : List Stmt → List String
  | [] => []
  | s :: ss => closuresIn s ++ closuresOf ss

def closuresOfCases : List SwitchCase → List String
  | [] => []
  | ⟨_, body⟩ :: cs => closuresOf body ++ closuresOfCases cs

end

/-- The scope behind statements that bind closures. -/
def Scope.knowing (sc : Scope) (closures : List String) : Scope :=
  { sc with closures := sc.closures ++ closures }

/-- What an expression is: a place, a `Value`, or a `bool`. -/
inductive Term
  | place (name : String)
  | value (text : String)
  | condition (text : String)

namespace Term

/-- The term as a `Value` of its own. -/
def owned : Term → String
  | place name => s!"{name}.clone()"
  | value text => text
  | condition text => json text

/-- The term as a reference to a `Value`. -/
def borrowed : Term → String
  | place name => s!"&{name}"
  | value text => s!"&{text}"
  | condition text => s!"&{json text}"

/-- The term as a `bool`. -/
def tested : Term → String
  | condition text => text
  | t => s!"rt::truthy({t.borrowed})"

/-- The term as a `bool` that an operator can stand in front of. -/
def atom (t : Term) : String :=
  let text := t.tested
  if text.toList.contains ' ' && !text.startsWith "(" then s!"({text})" else text

end Term

/-- What is known of the names of a service. -/
structure Env where
  constants : List (String × ConstantKind)
  callables : List Callable
  asyncNames : List String
  helpers : List String
  /-- Renders the default value of a parameter that a call leaves out. -/
  default : Scope → Expr → Emit String

namespace Env

/-- The last constant of a name counts. -/
def constant? (env : Env) (name : String) : Option ConstantKind :=
  (env.constants.reverse.find? (·.1 == name)).map (·.2)

/-- The last callable of a name counts. -/
def callable? (env : Env) (name : String) : Option Callable :=
  env.callables.reverse.find? (·.name == name)

def isAsync (env : Env) (name : String) : Bool := env.asyncNames.contains name

def varTerm (env : Env) (sc : Scope) (name : String) : Term :=
  if sc.isReceiver name then .value "this.clone()"
  else if (sc.provider? name).isSome || sc.closures.contains name then .value "Value::Null"
  else
    match env.constant? name with
    | some .literal => .value (json (ident name))
    | some .lazy => .value s!"{ident name}.clone()"
    | some .function => .value "Value::Null"
    | none => .place (ident name)

def missing (env : Env) (sc : Scope) (params : List Field) : Emit (List String) :=
  Source.Emit.collect params fun p =>
    match p.default with
    | some value => env.default sc value
    | none => return "Value::Null"

/-- A call by name, given the texts of the arguments. -/
def call (env : Env) (sc : Scope) (name : String) (args : List String) : Emit String :=
  if sc.closures.contains name then return ident name ++ "(" ++ join ", " args ++ ")"
  else
    match env.callable? name with
    | some c => do
      let rest ← env.missing sc (c.params.drop args.length)
      let text := ident name ++ "(" ++ join ", " (args ++ rest) ++ ")"
      return if env.isAsync name then s!"Box::pin({text}).await" else text
    | none =>
      if env.helpers.contains name && args.length == 2 then
        return name ++ "(" ++ join ", " args ++ ").await"
      else return "rt::call(" ++ doubleQuoted name ++ ", &[" ++ join ", " args ++ "])"

end Env

def providerCall (providerType root : String) (path : List String) (name : String)
    (args : List String) : String :=
  let list := "&[" ++ join ", " args ++ "]"
  match path, providerType with
  | [], _ => s!"{ident root}.{ident name}({list})"
  | [table], "Database" => s!"{ident root}.{ident table}.{ident name}({list})"
  | path, _ =>
    ident root ++ ".call(" ++ doubleQuoted (join "." path ++ "." ++ name) ++ ", " ++ list ++ ")"

def methodCall (target : Term) (name : String) (args : List String) : String :=
  "rt::call_method(" ++ target.borrowed ++ ", " ++ doubleQuoted name ++ ", &[" ++ join ", " args ++
    "])"

/-- The methods that take a closure. -/
def takesClosure (name : String) : Bool := name == "map" || name == "filter"

/-- The dependency that a receiver belongs to: its type, its name and the path to the receiver. -/
def receiver? (sc : Scope) (e : Expr) : Option (String × String × List String) := do
  let (root, path) ← Plan.providerPath? e
  return (← sc.provider? root, root, path)

/-- A comparison or an operation on two terms. -/
def binaryTerm (op : BinaryOp) (left right : Term) : Term :=
  let applied (name : String) : String := s!"rt::{name}({left.borrowed}, {right.borrowed})"
  match op with
  | .add => .value (applied "add")
  | .sub => .value (applied "sub")
  | .mul => .value (applied "mul")
  | .div => .value (applied "div")
  | .mod => .value (applied "rem")
  | .lt => .condition (applied "lt")
  | .le => .condition (applied "le")
  | .gt => .condition (applied "gt")
  | .ge => .condition (applied "ge")
  | .eq | .ne => .condition s!"{left.owned} {Core.binarySymbol op} {right.owned}"
  | .and | .or => .condition s!"({left.tested} {Core.binarySymbol op} {right.tested})"

def returnText (ctx : BodyContext) (value : String) : String :=
  match ctx with
  | .route 201 => s!"return (StatusCode::CREATED, Json({value})).into_response();"
  | .route _ => s!"return Json({value}).into_response();"
  | .rpc _ => s!"return Ok({value});"
  | _ => s!"return {value};"

/-- The value of a body that comes to its end. -/
def tailText (ctx : BodyContext) : String :=
  match ctx with
  | .route _ => "StatusCode::NO_CONTENT.into_response()"
  | .rpc _ => "Ok(Value::Null)"
  | _ => "Value::Null"

/-- A response to a request that is wrong. -/
def badRequest (message : String) : String :=
  "return (StatusCode::BAD_REQUEST, Json(json!(\x7b \"error\": " ++ doubleQuoted message ++
    " \x7d))).into_response();"

def validationText (ctx : BodyContext) : String :=
  match ctx with
  | .route _ => badRequest "Validation failed"
  | .rpc _ => "return Err(Status::invalid_argument(\"Validation failed\"));"
  | _ => "return json!(\x7b \"error\": \"Validation failed\" \x7d);"

def paramsText (params : List Field) : String :=
  join ", " (params.map fun p => s!"{ident p.name}: Value")

/-- The end of a body that control can reach. -/
def tailLine (ctx : BodyContext) (body : List Stmt) : Emit Unit :=
  only (Plan.fallsThrough body) (line (tailText ctx))

/-- What an arm does once its checks have passed; `exit` hands its value over. -/
def armBody (exit : String) (arm : Arm (Emit Term)) : Emit Unit := do
  each arm.bounds fun b => line s!"let {ident b.name} = {boundText b.path};"
  match arm.guard with
  | some guard =>
    let guard ← guard
    braces s!"if {guard.tested}" (do line s!"{exit} {(← arm.body).owned};") ""
  | none => line s!"{exit} {(← arm.body).owned};"

def armLines (exit : String) (arm : Arm (Emit Term)) : Emit Unit := do
  line (if arm.checks.isEmpty then "\x7b"
    else "if " ++ join " && " (arm.checks.map checkText) ++ " \x7b")
  nest (armBody exit arm)
  line "\x7d"

def planLines (exit : String) (plan : MatchPlan (Emit Term)) : Emit Unit := do
  each plan.arms (armLines exit)
  match plan.default with
  | some arm => armBody exit arm
  | none => line "Value::Null"

/-- A match on a value. Arms that await run in place, all others in a closure. -/
def matchText (awaits : Bool) (subject : String) (plan : MatchPlan (Emit Term)) : Emit String := do
  let number ← Source.Emit.number
  let name := s!"__match_{number}"
  if awaits then
    let label := s!"'match_{number}"
    braces s!"let {name} = {label}:"
      (do
        line s!"let __subject: Value = {subject};"
        planLines s!"break {label}" plan)
      ";"
    return name
  else
    braces s!"let {name} = |__subject: Value| -> Value" (planLines "return" plan) ";"
    return s!"{name}({subject})"

mutual

def expr (env : Env) (sc : Scope) : Expr → Emit Term
  | .int n => return .value (json (toString n.toInt))
  | .float x => return .value (floatText x)
  | .string s => return .value (json (doubleQuoted s))
  | .bool b => return .condition (toString b)
  | .null => return .value "Value::Null"
  | .var name => return env.varTerm sc name
  | .binary op left right => do
    let left ← expr env sc left
    let right ← expr env sc right
    return binaryTerm op left right
  | .unary .neg operand => do
    let operand ← expr env sc operand
    return .value s!"rt::neg({operand.borrowed})"
  | .unary .not operand => do
    let operand ← expr env sc operand
    return .condition s!"!{operand.atom}"
  | .field target name =>
    if (receiver? sc (.field target name)).isSome then return .value "Value::Null"
    else do
      let target ← expr env sc target
      return .value s!"rt::field({target.borrowed}, {doubleQuoted name})"
  | .index target position => do
    let target ← expr env sc target
    let position ← expr env sc position
    return .value s!"rt::index({target.borrowed}, {position.borrowed})"
  | .call name _ [] => do return .value (← env.call sc name [])
  | .call name _ (target :: rest) =>
    match Plan.classify name (target :: rest), receiver? sc target with
    | .function _ _, _ => do
      let target ← expr env sc target
      let rest ← exprs env sc rest
      return .value (← env.call sc name (target.owned :: rest))
    | .method _ _ _, some (providerType, root, path) => do
      let rest ← exprs env sc rest
      return .value (providerCall providerType root path name rest)
    | .method _ _ _, none => do
      let target ← expr env sc target
      match ← closureArg env sc name rest with
      | some closure => return .value s!"rt::{name}({target.borrowed}, {closure})"
      | none =>
        let rest ← exprs env sc rest
        return .value (methodCall target name rest)
  | .object fields => do return .value (objectText (← objectFields env sc fields))
  | .array elements => do
    return .value (json ("[" ++ join ", " (← exprs env sc elements) ++ "]"))
  | .lambda _ _ => return .value "Value::Null"
  | .pipe left (.call name _ args) => do
    let left ← expr env sc left
    let args ← exprs env sc args
    return .value (← env.call sc name (left.owned :: args))
  | .pipe left (.lambda params body) => do
    let closure ← lambda env sc params body
    let left ← expr env sc left
    return .value s!"({closure})({left.owned})"
  | .pipe left right => do
    let left ← expr env sc left
    match Plan.dottedName right with
    | some name => return .value (← env.call sc name [left.owned])
    | none => return .value ("rt::call(\"|>\", &[" ++ left.owned ++ "])")
  | .matchOn value cases => do
    let value ← expr env sc value
    let awaits := (Expr.caseNodes cases).any (Plan.suspends env.asyncNames)
    return .value (← matchText awaits value.owned (Plan.planMatch (matchCases env sc cases)))
  | .async body => do
    let name ← fresh "async"
    braces s!"let {name} = async"
      (do
        stmts env (sc.inner .closure body) body
        tailLine .closure body)
      ";"
    return .value s!"{name}.await"
  | .await e => do
    let term ← expr env sc e
    return .value term.owned

def exprs (env : Env) (sc : Scope) : List Expr → Emit (List String)
  | [] => return []
  | e :: es => do
    let e ← expr env sc e
    return e.owned :: (← exprs env sc es)

def objectFields (env : Env) (sc : Scope) : List ObjectField → Emit (List String)
  | [] => return []
  | ⟨key, value⟩ :: fs => do
    let value ← expr env sc value
    return s!"{doubleQuoted key}: {value.owned}" :: (← objectFields env sc fs)

/-- The closure that a method takes as its only argument. -/
def closureArg (env : Env) (sc : Scope) (name : String) : List Expr → Emit (Option String)
  | [.lambda params body] =>
    if takesClosure name then do return some (← lambda env sc params body) else return none
  | _ => return none

/-- The text of a closure, or the name of one that is written ahead. -/
def lambda (env : Env) (sc : Scope) (params : List Field) : LambdaBody → Emit String
  | .expr body => do
    let (value, ahead) ← capture (nest (expr env sc body))
    let start := s!"|{paramsText params}| -> Value"
    if ahead.isEmpty then return s!"{start} \x7b {value.owned} \x7d"
    else
      let name ← fresh "lambda"
      line s!"let {name} = {start} \x7b"
      write ahead
      nest (line value.owned)
      line "\x7d;"
      return name
  | .block body => do
    let name ← fresh "lambda"
    braces s!"let {name} = |{paramsText params}| -> Value"
      (do
        stmts env (sc.inner .closure body) body
        tailLine .closure body)
      ";"
    return name

/-- The cases of a match with the emissions of their guards and bodies. -/
def matchCases (env : Env) (sc : Scope) : List MatchCase → List (Case (Emit Term))
  | [] => []
  | ⟨pattern, none, body⟩ :: cs => ⟨pattern, none, expr env sc body⟩ :: matchCases env sc cs
  | ⟨pattern, some guard, body⟩ :: cs =>
    ⟨pattern, some (expr env sc guard), expr env sc body⟩ :: matchCases env sc cs

def stmt (env : Env) (sc : Scope) : Stmt → Emit Unit
  | .assign target (.lambda params body) => do
    line s!"let {ident target} = {← lambda env sc params body};"
  | .assign target value => do
    let value ← expr env sc value
    line s!"let {sc.pattern target} = {value.owned};"
  | .reassign target value => do
    let value ← expr env sc value
    line s!"{ident target} = {value.owned};"
  | .ret value => do
    let value ← expr env sc value
    line (returnText sc.context value.owned)
  | .cond condition thenBody elseBody => do
    let condition ← expr env sc condition
    line s!"if {condition.tested} \x7b"
    nest (stmts env sc thenBody)
    match elseBody with
    | [] => line "\x7d"
    | s :: ss =>
      line "\x7d else \x7b"
      nest (stmts env (sc.knowing (closuresOf thenBody)) (s :: ss))
      line "\x7d"
  | .forEach key value iterable body => do
    let iterable ← expr env sc iterable
    let text :=
      match key with
      | some key => s!"for ({sc.pattern key}, {sc.pattern value}) in rt::entries({iterable.borrowed})"
      | none => s!"for {sc.pattern value} in rt::iter({iterable.borrowed})"
    braces text (stmts env sc body) ""
  | .whileLoop condition body => do
    let condition ← expr env sc condition
    braces s!"while {condition.tested}" (stmts env sc body) ""
  | .switch value cases otherwise => do
    let value ← expr env sc value
    let subject ← fresh "switch"
    let labels ← caseLabels env sc cases
    line s!"let {subject} = {value.owned};"
    caseLines env sc subject "if" cases labels
    let behind := sc.knowing (closuresOfCases cases)
    if cases.isEmpty then stmts env behind otherwise
    else do
      match otherwise with
      | [] => pure ()
      | s :: ss =>
        line "\x7d else \x7b"
        nest (stmts env behind (s :: ss))
      line "\x7d"
  | .expr .null => line "// no-op"
  | .expr e => do
    let e ← expr env sc e
    line s!"{e.owned};"
  | .validate call => do
    let call ← expr env sc call
    braces s!"if !({call.tested})" (line (validationText sc.context)) ""
  | .breakLoop => line "break;"
  | .continueLoop => line "continue;"

def stmts (env : Env) (sc : Scope) : List Stmt → Emit Unit
  | [] => pure ()
  | s :: ss => do
    stmt env sc s
    stmts env (sc.knowing (closuresIn s)) ss

/-- Statements without a `break` at their end. -/
def caseStmts (env : Env) (sc : Scope) : List Stmt → Emit Unit
  | [] => pure ()
  | [.breakLoop] => pure ()
  | s :: ss => do
    stmt env sc s
    caseStmts env (sc.knowing (closuresIn s)) ss

def caseLabels (env : Env) (sc : Scope) : List SwitchCase → Emit (List String)
  | [] => return []
  | ⟨value, _⟩ :: cs => do
    let value ← expr env sc value
    return value.owned :: (← caseLabels env sc cs)

/-- The cases of a switch as a chain of conditions; the last brace stays open. -/
def caseLines (env : Env) (sc : Scope) (subject keyword : String) :
    List SwitchCase → List String → Emit Unit
  | ⟨_, body⟩ :: cs, label :: labels => do
    line s!"{keyword} {subject} == {label} \x7b"
    nest (caseStmts env sc body)
    caseLines env (sc.knowing (closuresOf body)) subject "\x7d else if" cs labels
  | _, _ => pure ()

end

/-- A body of its own with its tail. -/
def body (env : Env) (sc : Scope) (ctx : BodyContext) (ss : List Stmt) : Emit Unit := do
  stmts env (sc.inner ctx ss) ss
  tailLine ctx ss

/-- The environment in which default values may leave out arguments themselves, `n` deep. -/
def Env.nested (env : Env) : Nat → Env
  | 0 => env
  | n + 1 =>
    { env with
      default := fun sc e => do
        let term ← expr (env.nested n) sc e
        return term.owned }

def defaultCount (cs : List Callable) : Nat :=
  (cs.flatMap (·.params)).countP (·.default.isSome)

/-- How deep default values are filled in within each other. On a way down that comes to an end, none
comes twice unless a closure has taken the name of a callable in between. -/
def defaultDepth (cs : List Callable) : Nat := defaultCount cs * (cs.length + 1)

/-- The environment of a service. A default value that calls for itself would be filled in without
end; it is cut off at the depth above, with `Value::Null` in place of what comes further down. -/
def Env.of (s : Core.Service) : Env :=
  let cs := Plan.callables s
  let base : Env :=
    { constants := s.constants.map fun c => (c.name, constantKind c.value)
      callables := cs
      asyncNames := Plan.asyncNames s
      helpers := Plan.helperNames s
      default := fun _ _ => return "Value::Null" }
  base.nested (defaultDepth cs)

end ServiceCompiler.Rust
