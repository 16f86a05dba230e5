import ServiceCompiler.Target.PythonProgram
import ServiceCompiler.Target.RustProgram
import ServiceCompiler.Target.TypeScriptProgram

/-! # Generated programs -/

namespace ServiceCompiler

open ServiceCompiler.Core (Service)

inductive Target
  | python | typeScript | rust
  deriving DecidableEq, Repr

namespace Target

def all : List Target := [python, typeScript, rust]

def name : Target → String
  | python => "python"
  | typeScript => "typescript"
  | rust => "rust"

def defaultPort : Target → UInt16
  | python => 8000
  | typeScript => 3000
  | rust => 8080

end Target

/-- Where the generated server listens; what is left out depends on the target. -/
structure Options where
  host : Option String
  port : Option UInt16

namespace Options

def hostFor (o : Options) : String := o.host.getD "0.0.0.0"

def portFor (o : Options) (t : Target) : UInt16 := o.port.getD t.defaultPort

end Options

/-- A file with a path relative to the output directory. -/
structure GeneratedFile where
  path : String
  contents : String
  deriving DecidableEq

structure GeneratedProgram where
  target : Target
  source : GeneratedFile
  manifest : GeneratedFile
  auxiliary : List GeneratedFile
  deriving DecidableEq

def GeneratedProgram.files (p : GeneratedProgram) : List GeneratedFile :=
  p.source :: p.manifest :: p.auxiliary

def protoFiles (s : Service) : List GeneratedFile :=
  if s.rpc.isEmpty then [] else [⟨Schema.protoPath s, Schema.proto s⟩]

def generatePython (s : Service) (host : String) (port : UInt16) : GeneratedProgram where
  target := .python
  source := ⟨"main.py", Python.source s host port⟩
  manifest := ⟨"requirements.txt", Text.join "\n" (Python.requirements (.of s)) ++ "\n"⟩
  auxiliary := protoFiles s

def generateTypeScript (s : Service) (host : String) (port : UInt16) : GeneratedProgram where
  target := .typeScript
  source := ⟨"src/app.ts", TypeScript.source s host port⟩
  manifest := ⟨"package.json", TypeScript.manifest s⟩
  auxiliary := ⟨"tsconfig.json", TypeScript.compilerSettings⟩ :: protoFiles s

def generateRust (s : Service) (host : String) (port : UInt16) : GeneratedProgram where
  target := .rust
  source := ⟨"src/main.rs", Rust.source s host port⟩
  manifest := ⟨"Cargo.toml", Rust.manifest s⟩
  auxiliary := ⟨"rustfmt.toml", Rust.formatterSettings⟩ :: protoFiles s

def generate (s : Service) (o : Options) (t : Target) : GeneratedProgram :=
  match t with
  | .python => generatePython s o.hostFor (o.portFor t)
  | .typeScript => generateTypeScript s o.hostFor (o.portFor t)
  | .rust => generateRust s o.hostFor (o.portFor t)

def generateAll (s : Service) (o : Options) (ts : List Target) : List GeneratedProgram :=
  ts.map (generate s o)

end ServiceCompiler
