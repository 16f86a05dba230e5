import ServiceCompiler.Plan.Names
import ServiceCompiler.Target.RustBody

/-! # Rust records, functions and commands -/

namespace ServiceCompiler.Rust

open ServiceCompiler.Core (Field Method Record Function Command Constant Service)
open Source (Emit)
open Source.Emit (line lines gap nest each only braces spaced capture write)
open Text (join doubleQuoted)

/-- The type of a field when its value is present; a record inside itself is boxed. -/
def presentText (r : Record) (f : Field) : String :=
  let type := typeText f.presentType
  if type == r.name || type.startsWith s!"{r.name}<" then s!"Box<{type}>" else type

def fieldLines (r : Record) (f : Field) : List String :=
  let type := presentText r f
  if f.mayBeAbsent then
    ["#[serde(default, skip_serializing_if = \"Option::is_none\")]",
      s!"pub {ident f.name}: Option<{type}>,"]
  else
    (if f.default.isSome then ["#[serde(default)]"] else []) ++ [s!"pub {ident f.name}: {type},"]

def asyncText (isAsync : Bool) : String := if isAsync then "async " else ""

def methodLines (env : Env) (m : Method) : Emit Unit :=
  let isAsync := Plan.bodySuspends env.asyncNames m.body
  let ps := join ", " ("&self" :: m.params.map fun p => s!"{ident p.name}: Value")
  braces s!"pub {asyncText isAsync}fn {ident m.name}({ps}) -> Value"
    (do
      line "let this = serde_json::to_value(self).unwrap_or_default();"
      body env { Scope.outer with inMethod := true } .function m.body)
    ""

def recordLines (env : Env) (r : Record) : Emit Unit := do
  let type := s!"{r.name}{Plan.angleParams r.typeParams}"
  line "#[derive(Debug, Clone, Default, Serialize, Deserialize)]"
  braces s!"pub struct {type}" (each r.fields fun f => lines (fieldLines r f)) ""
  only (!r.methods.isEmpty) do
    gap
    braces s!"impl{boundParams r.typeParams} {type}" (spaced r.methods (methodLines env)) ""

/-- Whether a parameter has a type parameter as its type. -/
def isGeneric (typeParams : List String) (p : Field) : Bool :=
  match p.type with
  | .named name => typeParams.contains name
  | _ => false

def functionParam (typeParams : List String) (p : Field) : String :=
  if isGeneric typeParams p then s!"{ident p.name}: {typeText p.type}" else s!"{ident p.name}: Value"

/-- The first line of a function, up to its body. -/
def functionHeader (env : Env) (name : String) (typeParams : List String) (params : List Field) :
    String :=
  let ps := join ", " (params.map (functionParam typeParams))
  s!"{asyncText (env.isAsync name)}fn {ident name}{boundParams typeParams}({ps}) -> Value"

/-- A function; parameters of generic types become values first. -/
def functionLines (env : Env) (name : String) (typeParams : List String) (params : List Field)
    (ss : List Core.Stmt) : Emit Unit :=
  braces (functionHeader env name typeParams params)
    (do
      each (params.filter (isGeneric typeParams)) fun p =>
        line s!"let {ident p.name} = serde_json::to_value({ident p.name}).unwrap_or_default();"
      body env .outer .function ss)
    ""

/-- A constant that is made at the first use. -/
def lazyLines (env : Env) (name : String) (value : Core.Expr) : Emit Unit := do
  let (term, ahead) ← capture (nest (expr env .outer value))
  let start := s!"pub static {ident name}: LazyLock<Value> = LazyLock::new(||"
  if ahead.isEmpty then line s!"{start} {term.owned});"
  else do
    line s!"{start} \x7b"
    write ahead
    nest (line term.owned)
    line "\x7d);"

def constantLines (env : Env) (c : Constant) : Emit Unit :=
  let declared (type value : String) : Emit Unit :=
    line s!"pub const {ident c.name}: {type} = {value};"
  match c.value, env.constant? c.name with
  | .lambda params b, some .function => functionLines env c.name [] params (Plan.lambdaStmts b)
  | .int n, _ => declared "i64" (toString n.toInt)
  | .float x, _ => declared "f64" (Core.displayFloat x)
  | .string s, _ => declared "&str" (doubleQuoted s)
  | .bool b, _ => declared "bool" (toString b)
  | value, _ => lazyLines env c.name value

/-- A description as a remark on the item behind it. -/
def remark (description : String) : String := s!"/// {description}"

/-- Binds the fields of a value to variables of the same names. -/
def fieldBindings (source : String) (names : List String) : Emit Unit :=
  each names fun name => line s!"let {ident name} = rt::field(&{source}, {doubleQuoted name});"

def commandLines (env : Env) (c : Command) : Emit Unit := do
  only (!c.description.isEmpty) (line (remark c.description))
  braces s!"async fn {Plan.commandName c.name}(args: Value) -> Value"
    (do
      fieldBindings "args" (c.params.map (·.name))
      body env .outer .command c.body)
    ""

def typesSection (env : Env) (s : Service) : Emit Unit := do
  each s.records fun r => do
    gap
    recordLines env r
  each s.constants fun c => do
    gap
    constantLines env c
  each s.functions fun f => do
    gap
    functionLines env f.name f.typeParams f.params f.body
  each s.commands fun c => do
    gap
    commandLines env c

end ServiceCompiler.Rust
