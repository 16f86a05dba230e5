import ServiceCompiler.Plan.Names
import ServiceCompiler.Target.PythonBody

/-! # Python records, functions and commands -/

namespace ServiceCompiler.Python

open ServiceCompiler.Core (Field Method Record Function Command Constant Service)
open Source (Emit)
open Source.Emit (line gap nest head each only collect)
open Text (join doubleQuoted)

structure Param where
  name : String
  type : Option String
  default : Option String
  deriving DecidableEq, Repr

def Param.text (p : Param) : String :=
  let type :=
    match p.type with
    | some t => s!": {t}"
    | none => ""
  let default :=
    match p.default with
    | some d => s!" = {d}"
    | none => ""
  p.name ++ type ++ default

def paramTexts (ps : List Param) : String := join ", " (ps.map Param.text)

/-- A parameter of a function or a method: one that may be absent is `None` by default. -/
def param (f : Field) : Emit Param := do
  let type := typeText f.effectiveType
  match f.default with
  | some value => return ⟨f.name, some type, some (← expr false value)⟩
  | none => return ⟨f.name, some type, if f.required then none else some "None"⟩

def params (fs : List Field) : Emit (List Param) := collect fs param

/-- Two empty lines in front of a definition. -/
def apart : Emit Unit := do
  gap
  line ""

def fieldType (f : Field) : String :=
  let type := typeText f.presentType
  if f.mayBeAbsent then optionalType type else type

def fieldText (f : Field) (default : Option String) : String :=
  let remarks :=
    if f.decorators.isEmpty then ""
    else "  # " ++ join " " (f.decorators.map fun d => s!"@{d.name}")
  (Param.text ⟨f.name, some (fieldType f), default⟩) ++ remarks

def fieldLine (f : Field) : Emit Unit := do
  match f.default with
  | some value => line (fieldText f (some (← expr false value)))
  | none => line (fieldText f (if f.mayBeAbsent then some "None" else none))

def methodParams (ps : List Param) : List Param := ⟨"self", none, none⟩ :: ps

def methodLines (m : Method) : Emit Unit := do
  gap
  let ps ← params m.params
  head
    s!"{defText (Core.Stmt.bodyAwaits m.body)} {m.name}({paramTexts (methodParams ps)}) -> {typeText m.result}:"
    (block .function m.body)

def recordLines (r : Record) : Emit Unit := do
  line ""
  let bases :=
    if r.typeParams.isEmpty then "BaseModel"
    else "BaseModel, Generic[" ++ join ", " r.typeParams ++ "]"
  head s!"class {r.name}({bases}):" do
    only (r.fields.isEmpty && r.methods.isEmpty) (line "pass")
    each r.fields fieldLine
    each r.methods methodLines

def constantLine (c : Constant) : Emit Unit := do
  let value ← expr true c.value
  line (Param.text ⟨c.name, c.type.map typeText, some value⟩)

def functionLines (f : Function) : Emit Unit := do
  apart
  let ps ← params f.params
  let result :=
    match f.result with
    | some t => s!" -> {typeText t}"
    | none => ""
  head s!"{defText (Core.Stmt.bodyAwaits f.body)} {f.name}({paramTexts ps}){result}:"
    (block .function f.body)

/-- A description as the first statement of a function. -/
def docstring (description : String) : String :=
  "\"\"\"" ++ Text.replaceAll "\"\"\"" "'''" description ++ "\"\"\""

def commandLines (c : Command) : Emit Unit := do
  apart
  head s!"async def {Plan.commandName c.name}(args):" do
    only (!c.description.isEmpty) (line (docstring c.description))
    each c.params fun p => line s!"{p.name} = args.{p.name}"
    block .command c.body

def typesSection (s : Service) : Emit Unit := do
  let typeVars := Plan.declaredTypeParams s
  each typeVars fun name => line s!"{name} = TypeVar({doubleQuoted name})"
  each s.records fun r => do
    gap
    recordLines r
  only (!s.constants.isEmpty) gap
  each s.constants constantLine
  each s.functions functionLines
  each s.commands commandLines

end ServiceCompiler.Python
