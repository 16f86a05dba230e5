import ServiceCompiler.Plan.Names
import ServiceCompiler.Target.TypeScriptBody

/-! # TypeScript records, functions and commands -/

namespace ServiceCompiler.TypeScript

open ServiceCompiler.Core (Field Method Record Function Command Constant Service)
open Source (Emit)
open Source.Emit (line gap nest each only collect braces)
open Text (join)

/-- The name of a handler; one without letters and digits is `handler`. -/
def handlerName (name : String) : String :=
  let camel := Text.lowerCamelCase name
  if camel.isEmpty then "handler" else camel

/-- A parameter of a function or a method. -/
def param (f : Field) : Emit String := do
  let type := typeText f.presentType
  match f.default with
  | some value => return s!"{f.name}: {type} = {← expr false value}"
  | none => return if f.mayBeAbsent then s!"{f.name}?: {type}" else s!"{f.name}: {type}"

def params (fs : List Field) : Emit String := do
  return join ", " (← collect fs param)

/-- The result of a function that may be asynchronous. -/
def resultText (awaits : Bool) (type : String) : String :=
  if awaits then s!"Promise<{type}>" else type

/-- The line of a field: optional, required in a class, or required in an interface. -/
def fieldText (isClass : Bool) (f : Field) : String :=
  let type := typeText f.presentType
  if f.mayBeAbsent then s!"{f.name}?: {type};"
  else if isClass then s!"{f.name}!: {type};"
  else s!"{f.name}: {type};"

def methodLines (m : Method) : Emit Unit := do
  gap
  let ps ← params m.params
  let awaits := Core.Stmt.bodyAwaits m.body
  braces s!"{asyncText awaits}{m.name}({ps}): {resultText awaits (typeText m.result)}"
    (body .function m.body) ""

/-- A record with methods is a class, any other an interface. -/
def recordLines (r : Record) : Emit Unit := do
  let isClass := !r.methods.isEmpty
  let keyword := if isClass then "class" else "interface"
  braces s!"{keyword} {r.name}{Plan.angleParams r.typeParams}"
    (do
      each r.fields fun f => line (fieldText isClass f)
      each r.methods methodLines)
    ""

def constantLine (c : Constant) : Emit Unit := do
  let value ← expr true c.value
  match c.type with
  | some type => line s!"const {c.name}: {typeText type} = {value};"
  | none => line s!"const {c.name} = {value};"

def functionLines (f : Function) : Emit Unit := do
  gap
  let ps ← params f.params
  let awaits := Core.Stmt.bodyAwaits f.body
  let result := (f.result.map typeText).getD "any"
  let generics := Plan.angleParams f.typeParams
  braces s!"{asyncText awaits}function {f.name}{generics}({ps}): {resultText awaits result}"
    (body .function f.body) ""

/-- A description as a comment; what would end the comment is broken up. -/
def remark (description : String) : String :=
  "/** " ++ Text.replaceAll "*/" "* /" description ++ " */"

def commandFunction (c : Command) : String := handlerName (Plan.commandName c.name)

def commandLines (c : Command) : Emit Unit := do
  gap
  only (!c.description.isEmpty) (line (remark c.description))
  braces s!"async function {commandFunction c}(args: Record<string, any>): Promise<any>"
    (do
      each c.params fun p => line s!"const {p.name} = args.{p.name};"
      body .command c.body)
    ""

def typesSection (s : Service) : Emit Unit := do
  each s.records fun r => do
    gap
    recordLines r
  only (!s.constants.isEmpty) gap
  each s.constants constantLine
  each s.functions functionLines
  each s.commands commandLines

end ServiceCompiler.TypeScript
