import ServiceCompiler.Core.Service
import ServiceCompiler.Decimal.Layout
import ServiceCompiler.Text.Shown
import ServiceCompiler.Text.Split

/-! # Dumps

A reader's view of a service: one line a statement, indented by two spaces a level. -/

namespace ServiceCompiler.Core

open Text (join)

def braced (s : String) : String := "\x7b" ++ s ++ "\x7d"

mutual

def Ty.display : Ty → String
  | .int => "int"
  | .float => "float"
  | .string => "str"
  | .bool => "bool"
  | .any => "any"
  | .array element => s!"[{element.display}]"
  | .optional inner => s!"{inner.display}?"
  | .future result => s!"Future<{result.display}>"
  | .union [] => "never"
  | .union (t :: ts) => join " | " (Ty.displays (t :: ts))
  | .generic name args => name ++ "<" ++ join ", " (Ty.displays args) ++ ">"
  | .named name => name
  | .provider name => s!"provider {name}"
  | .function params result => "(" ++ join ", " (Ty.displays params) ++ ") -> " ++ result.display

def Ty.displays : List Ty → List String
  | [] => []
  | t :: ts => t.display :: Ty.displays ts

end

def displayFloat (x : Float) : String := Decimal.source.render x

def displayLiteral : Literal → String
  | .int n => toString n.toInt
  | .float x => displayFloat x
  | .string s => Text.shown s
  | .bool b => toString b
  | .null => "null"

/-- The spelling that most targets share. -/
def binarySymbol : BinaryOp → String
  | .add => "+"
  | .sub => "-"
  | .mul => "*"
  | .div => "/"
  | .mod => "%"
  | .eq => "=="
  | .ne => "!="
  | .lt => "<"
  | .le => "<="
  | .gt => ">"
  | .ge => ">="
  | .and => "&&"
  | .or => "||"

def unarySymbol : UnaryOp → String
  | .not => "!"
  | .neg => "-"

mutual

def Pattern.display : Pattern → String
  | .literal value => displayLiteral value
  | .variable name => name
  | .wildcard => "_"
  | .object fields => braced (" " ++ join ", " (Pattern.fieldDisplays fields) ++ " ")
  | .array elements rest =>
    let tail :=
      match rest with
      | some name => ["..." ++ name]
      | none => []
    "[" ++ join ", " (Pattern.displays elements ++ tail) ++ "]"

def Pattern.displays : List Pattern → List String
  | [] => []
  | p :: ps => p.display :: Pattern.displays ps

def Pattern.fieldDisplays : List PatternField → List String
  | [] => []
  | ⟨key, none⟩ :: fs => key :: Pattern.fieldDisplays fs
  | ⟨key, some p⟩ :: fs => s!"{key}: {p.display}" :: Pattern.fieldDisplays fs

end

mutual

def Expr.display : Expr → String
  | .int n => toString n.toInt
  | .float x => displayFloat x
  | .string s => Text.shown s
  | .bool b => toString b
  | .null => "null"
  | .var name => name
  | .binary op left right => s!"({left.display} {binarySymbol op} {right.display})"
  | .unary op operand => unarySymbol op ++ operand.display
  | .field target name => s!"{target.display}.{name}"
  | .index target position => s!"{target.display}[{position.display}]"
  | .call name _ args => name ++ "(" ++ join ", " (Expr.displays args) ++ ")"
  | .object fields => braced (join "," (Expr.fieldDisplays fields) ++ " ")
  | .array elements => "[" ++ join ", " (Expr.displays elements) ++ "]"
  | .lambda params body =>
    "(" ++ join ", " (Expr.paramNames params) ++ ") => " ++ Expr.lambdaDisplay body
  | .pipe left right => s!"{left.display} |> {right.display}"
  | .matchOn value cases =>
    "match " ++ value.display ++ " " ++ braced (String.join (Expr.caseDisplays cases) ++ " ")
  | .async body => "async " ++ braced s!" {body.length} statements "
  | .await expr => s!"await {expr.display}"

def Expr.displays : List Expr → List String
  | [] => []
  | e :: es => e.display :: Expr.displays es

def Expr.fieldDisplays : List ObjectField → List String
  | [] => []
  | ⟨key, value⟩ :: fs => s!" {key}: {value.display}" :: Expr.fieldDisplays fs

def Expr.paramNames : List Field → List String
  | [] => []
  | f :: fs => f.name :: Expr.paramNames fs

def Expr.lambdaDisplay : LambdaBody → String
  | .expr body => body.display
  | .block body => braced s!" {body.length} statements "

def Expr.caseDisplays : List MatchCase → List String
  | [] => []
  | ⟨pattern, none, body⟩ :: cs =>
    s!" {pattern.display} => {body.display};" :: Expr.caseDisplays cs
  | ⟨pattern, some guard, body⟩ :: cs =>
    s!" {pattern.display} when {guard.display} => {body.display};" :: Expr.caseDisplays cs

end

def dumpLine (depth : Nat) (text : String) : String :=
  String.ofList (List.replicate (2 * depth) ' ') ++ text

mutual

def Stmt.dump (depth : Nat) : Stmt → List String
  | .assign target value => [dumpLine depth s!"${target} = {value.display}"]
  | .reassign target value => [dumpLine depth s!"{target} = {value.display}"]
  | .ret value => [dumpLine depth s!"return {value.display}"]
  | .cond condition thenBody elseBody =>
    let otherwise :=
      match elseBody with
      | [] => []
      | _ :: _ => dumpLine depth "else" :: Stmt.dumpBody (depth + 1) elseBody
    dumpLine depth s!"if {condition.display}" :: Stmt.dumpBody (depth + 1) thenBody ++ otherwise
  | .forEach key value iterable body =>
    let names :=
      match key with
      | some key => s!"{key}, {value}"
      | none => value
    dumpLine depth s!"for {names} in {iterable.display}" :: Stmt.dumpBody (depth + 1) body
  | .whileLoop condition body =>
    dumpLine depth s!"while {condition.display}" :: Stmt.dumpBody (depth + 1) body
  | .switch value cases otherwise =>
    let last :=
      match otherwise with
      | [] => []
      | _ :: _ => dumpLine (depth + 1) "default" :: Stmt.dumpBody (depth + 2) otherwise
    dumpLine depth s!"switch {value.display}" :: Stmt.dumpCases (depth + 1) cases ++ last
  | .expr .null => [dumpLine depth "noop"]
  | .expr e => [dumpLine depth e.display]
  | .validate call => [dumpLine depth s!"validate {call.display}"]
  | .breakLoop => [dumpLine depth "break"]
  | .continueLoop => [dumpLine depth "continue"]

def Stmt.dumpBody (depth : Nat) : List Stmt → List String
  | [] => []
  | s :: ss => s.dump depth ++ Stmt.dumpBody depth ss

def Stmt.dumpCases (depth : Nat) : List SwitchCase → List String
  | [] => []
  | ⟨value, body⟩ :: cs =>
    dumpLine depth s!"case {value.display}" :: Stmt.dumpBody (depth + 1) body ++
      Stmt.dumpCases depth cs

end

def paramList (params : List Field) : String :=
  join ", " (params.map fun p => s!"{p.name}: {p.type.display}")

def Injection.dump (i : Injection) : String := s!"  % {i.name}: {i.type}"

def dumpBinding (title : String) (injections : List Injection) (body : List Stmt) : List String :=
  title :: injections.map Injection.dump ++ Stmt.dumpBody 1 body

def Provider.dump (p : Provider) : List String :=
  let kind := if p.isStandard then "standard" else "custom"
  s!";   {p.name} -> {p.type} ({kind})" ::
    p.methods.map fun m => s!";     {m.name}({paramList m.params}) -> {m.result.display}"

def Record.dump (r : Record) : List String :=
  s!"; Type {r.name}" :: r.fields.map fun f => s!"  {f.name}: {f.effectiveType.display}"

def Function.dump (f : Function) : List String :=
  let result :=
    match f.result with
    | some t => s!" -> {t.display}"
    | none => ""
  s!"; Function {f.name}({paramList f.params}){result}" :: Stmt.dumpBody 1 f.body

def RpcService.dump (s : RpcService) : List String :=
  s!"; gRPC {s.name}" ::
    (s.methods.map fun m => s!";   rpc {m.name}({m.input.display}) -> {m.result.display}") ++
    s.handlers.flatMap fun h => dumpBinding s!";   handler {h.method}" h.injections h.body

def Socket.dump (s : Socket) : List String :=
  s!"; WebSocket {s.path}" ::
    s.handlers.flatMap fun h => s!";   on {h.event.name}" :: Stmt.dumpBody 1 h.body

def Service.dumpLines (s : Service) : List String :=
  let providers :=
    if s.providers.isEmpty then []
    else "; Providers" :: s.providers.flatMap Provider.dump ++ [""]
  let records := if s.records.isEmpty then [] else s.records.flatMap Record.dump ++ [""]
  [s!"; Service: {s.name}", ""] ++ providers ++ records ++
    (s.constants.map fun c => s!"; Const {c.name} = {c.value.display}") ++
    s.functions.flatMap Function.dump ++
    (s.commands.flatMap fun c => dumpBinding s!"; Command {c.name}" [] c.body) ++
    (s.routes.flatMap fun r => dumpBinding s!"; Route {r.display}" r.injections r.body) ++
    (s.resolvers.flatMap fun r =>
      dumpBinding s!"; GraphQL {rootType r.operation}.{r.field}" r.injections r.body) ++
    s.rpc.flatMap RpcService.dump ++
    s.sockets.flatMap Socket.dump ++
    (s.cronJobs.flatMap fun j =>
      dumpBinding s!"; Cron {j.name} \"{j.schedule}\"" j.injections j.body) ++
    (s.events.flatMap fun e => dumpBinding s!"; Event \"{e.event}\"" e.injections e.body) ++
    s.queues.flatMap fun q => dumpBinding s!"; Queue \"{q.queue}\"" q.injections q.body

def Service.dump (s : Service) : String :=
  String.join (s.dumpLines.map (· ++ "\n"))

end ServiceCompiler.Core
