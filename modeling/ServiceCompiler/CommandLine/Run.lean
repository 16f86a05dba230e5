import ServiceCompiler.Build.Service
import ServiceCompiler.CommandLine.Arguments
import ServiceCompiler.CommandLine.Host
import ServiceCompiler.Core.Encode
import ServiceCompiler.Diagnostic.Render
import ServiceCompiler.Surface.Read

/-! # Running commands -/

namespace ServiceCompiler.CommandLine

open Surface (Program ReadError)
open Build (Built Failure)

inductive Stop
  | unreadable (file : String) (error : FileError)
  | invalid (file : String) (error : ReadError)
  | unbuildable (file : String) (failure : Failure)
  | notCreated (directory : String) (error : FileError)
  | notWritten (file : String) (error : FileError)
  /-- The reason has been shown already. -/
  | shown

namespace Stop

def message? : Stop → Option String
  | unreadable file error => some s!"failed to read {file}: {error.message}"
  | invalid file error => some s!"{file} is not a valid program: {error.message}"
  | unbuildable file failure =>
    some s!"failed to build {file}: {failure.message}: {failure.cause.message}"
  | notCreated directory error => some s!"failed to create {directory}: {error.message}"
  | notWritten file error => some s!"failed to write {file}: {error.message}"
  | shown => none

end Stop

variable {m : Type → Type} [Monad m]

abbrev Task (m : Type → Type) (α : Type) : Type := ExceptT Stop m α

def say (h : Host m) (line : String) : Task m Unit := ExceptT.lift (h.out (line ++ "\n"))

def complain (h : Host m) (line : String) : Task m Unit := ExceptT.lift (h.err (line ++ "\n"))

def attempt {α : Type} (operation : m (Except FileError α)) (stop : FileError → Stop) : Task m α :=
  ExceptT.mk do return (← operation).mapError stop

def readProgram (h : Host m) (file : String) : Task m Program := do
  let text ← attempt (h.read file) (.unreadable file)
  MonadExcept.ofExcept ((Program.parse text).mapError (.invalid file))

def load (h : Host m) (file : String) : Task m Built := do
  let p ← readProgram h file
  MonadExcept.ofExcept ((Build.build p).mapError (.unbuildable file))

def runIr (h : Host m) (file : String) (asJson : Bool) : Task m Unit := do
  let s := (← load h file).service
  if asJson then say h s.toJson.pretty
  else
    say h s.dump
    say h "Statistics:"
    say h s!"   Types: {s.records.length}"
    say h s!"   Providers: {s.providers.length}"
    say h s!"   HTTP Routes: {s.routes.length}"
    say h s!"   Functions: {s.functions.length}"
    say h s!"   Bindings: {s.bindingCount}"

def runCheck (h : Host m) (file : String) : Task m Unit := do
  say h s!"Checking: {file}\n"
  let p ← readProgram h file
  say h s!"  [ok] Program: {p.items.length} items"
  match Build.build p with
  | .error failure =>
    complain h ((failure.diagnostic file).render false)
    throw .shown
  | .ok b =>
    let count := warningCount b.warnings
    if count > 0 then
      say h s!"  [warn] IR: {count} warning(s)"
      complain h (renderAll false b.warnings)
    else
      say h s!"  [ok] IR: {b.service.bindingCount} bindings, {b.service.providers.length} providers"
    say h "\nNo errors found!"

def runEmit (h : Host m) (file : String) (target : Target) (manifest : Bool) : Task m Unit := do
  let b ← load h file
  let program := generate b.service ⟨none, none⟩ target
  ExceptT.lift (h.out (if manifest then program.manifest.contents else program.source.contents))

def below (directory path : String) : String :=
  if directory.endsWith "/" then directory ++ path else directory ++ "/" ++ path

def parentOf (path : String) : String :=
  Text.join "/" (Text.splitAt '/' path).dropLast

def writeFile (h : Host m) (root : String) (f : GeneratedFile) : Task m Unit := do
  let file := below root f.path
  let directory := parentOf file
  attempt (h.createDirectories directory) (.notCreated directory)
  attempt (h.write file f.contents) (.notWritten file)

def programRoot (out : String) (t : Target) : String := below out t.name

/-- Writes a program below the directory of its target. -/
def writeProgram (h : Host m) (out : String) (p : GeneratedProgram) : Task m Unit :=
  p.files.forM (writeFile h (programRoot out p.target))

def runBuild (h : Host m) (file out : String) (targets : List Target) (options : Options) :
    Task m Unit := do
  say h s!"Compiling: {file}"
  let b ← load h file
  say h s!"  [ok] IR: {b.service.bindingCount} bindings, {warningCount b.warnings} warning(s)"
  let programs := generateAll b.service options (buildTargets targets)
  programs.forM (writeProgram h out)
  programs.forM fun p =>
    say h s!"  [ok] {p.target.name}: {p.files.length} files -> {programRoot out p.target}"
  say h "\nBuild completed!"

def run (h : Host m) : Command → Task m Unit
  | .ir file asJson => runIr h file asJson
  | .check file => runCheck h file
  | .emit file target manifest => runEmit h file target manifest
  | .build file out targets options => runBuild h file out targets options

def usage : String :=
  "Usage: glyph [-v] <ir FILE [--json] | check FILE | emit FILE [-t TARGET] [--manifest] | " ++
    "build FILE -o DIR [-t TARGET]... [--host HOST] [--port PORT]>"

/-- Runs the compiler with arguments and gives its exit code. -/
def execute (h : Host m) (args : List String) : m UInt32 :=
  match parse args with
  | .error e => do
    h.err s!"error: {e.message}\n\n{usage}\n"
    return 2
  | .ok .version => do
    h.out "glyph 0.1.0\n"
    return 0
  | .ok .help => do
    h.out (usage ++ "\n")
    return 0
  | .ok (.run c) => do
    match ← (run h c).run with
    | .ok _ => return 0
    | .error stop =>
      match stop.message? with
      | some message => h.err s!"error: {message}\n"
      | none => pure ()
      return 1

end ServiceCompiler.CommandLine
