import ServiceCompiler.Generate

/-! # Arguments of the command line

Options and flags come in any order around the file of a command. A long option may have its value
behind `=`, a short one right behind its letter, and both may have it in the next argument. Behind
`--` nothing is an option. Arguments are read from left to right: what stands before the first
request for help or for the version has to be right, and what stands behind it is not looked at. -/

namespace ServiceCompiler.CommandLine

inductive Flag
  | verbose | version | help | json | manifest | target | out | host | port
  deriving DecidableEq, Repr

namespace Flag

def long : Flag → String
  | verbose => "verbose"
  | version => "version"
  | help => "help"
  | json => "json"
  | manifest => "manifest"
  | target => "target"
  | out => "out"
  | host => "host"
  | port => "port"

def short? : Flag → Option Char
  | verbose => some 'v'
  | version => some 'V'
  | help => some 'h'
  | target => some 't'
  | out => some 'o'
  | json | manifest | host | port => none

def takesValue : Flag → Bool
  | target | out | host | port => true
  | verbose | version | help | json | manifest => false

/-- Whether the arguments behind a flag do not matter. -/
def isLast : Flag → Bool
  | version | help => true
  | verbose | json | manifest | target | out | host | port => false

end Flag

inductive UsageError
  | missingCommand
  | unknownCommand (name : String)
  | unexpected (arg : String)
  | missingFile
  | missing (flag : Flag)
  | missingValue (flag : Flag)
  | repeated (flag : Flag)
  | invalidValue (flag : Flag) (value : String)
  | emptyFile
  deriving DecidableEq, Repr

def UsageError.message : UsageError → String
  | missingCommand => "a command is missing"
  | unknownCommand name => s!"unrecognized command '{name}'"
  | unexpected arg => s!"unexpected argument '{arg}'"
  | missingFile => "the file is missing"
  | missing flag => s!"the option '--{flag.long}' is missing"
  | missingValue flag => s!"a value is required for '--{flag.long}'"
  | repeated flag => s!"the argument '--{flag.long}' cannot be used multiple times"
  | invalidValue flag value => s!"invalid value '{value}' for '--{flag.long}'"
  | emptyFile => "the name of the file is empty"

inductive Given
  | file (name : String)
  | flag (flag : Flag)
  | value (flag : Flag) (text : String)
  deriving DecidableEq, Repr

/-- Whether the arguments behind one do not matter. -/
def Given.isLast : Given → Bool
  | flag f => f.isLast
  | file _ | value _ _ => false

/-- What an argument gives, and the option that takes the next argument as its value. -/
structure Understood where
  given : List Given
  waiting : Option Flag

def splitEquals (cs : List Char) : List Char × Option (List Char) :=
  match cs.dropWhile (· != '=') with
  | [] => (cs, none)
  | _ :: value => (cs.takeWhile (· != '='), some value)

/-- The argument behind `--`. -/
def longArgument (flags : List Flag) (arg : String) (cs : List Char) :
    Except UsageError Understood :=
  let (name, value) := splitEquals cs
  match flags.find? (·.long.toList == name) with
  | none => .error (.unexpected arg)
  | some flag =>
    match flag.takesValue, value with
    | true, some v => .ok ⟨[.value flag (String.ofList v)], none⟩
    | true, none => .ok ⟨[], some flag⟩
    | false, none => .ok ⟨[.flag flag], none⟩
    | false, some _ => .error (.unexpected arg)

/-- The letters behind `-`. The first one that takes a value takes all that follows. -/
def shortArgument (flags : List Flag) (arg : String) : List Char → Except UsageError Understood
  | [] => .ok ⟨[], none⟩
  | c :: cs =>
    match flags.find? (·.short? == some c) with
    | none => .error (.unexpected arg)
    | some flag =>
      if flag.takesValue then
        match cs with
        | [] => .ok ⟨[], some flag⟩
        | '=' :: value => .ok ⟨[.value flag (String.ofList value)], none⟩
        | value => .ok ⟨[.value flag (String.ofList value)], none⟩
      else if flag.isLast then .ok ⟨[.flag flag], none⟩
      else do
        let rest ← shortArgument flags arg cs
        return ⟨.flag flag :: rest.given, rest.waiting⟩

/-- Whether an argument can only be an option. -/
def isOption (arg : String) : Bool :=
  match arg.toList with
  | '-' :: _ :: _ => true
  | _ => false

def argument (flags : List Flag) (arg : String) : Except UsageError Understood :=
  match arg.toList with
  | '-' :: '-' :: cs => longArgument flags arg cs
  | '-' :: c :: cs => shortArgument flags arg (c :: cs)
  | _ => .ok ⟨[.file arg], none⟩

/-- What the arguments of a command give, in order; `waiting` is an option without its value. -/
def arguments (flags : List Flag) : Option Flag → List String → Except UsageError (List Given)
  | none, [] => .ok []
  | some flag, [] => .error (.missingValue flag)
  | some flag, arg :: rest =>
    if isOption arg then .error (.missingValue flag)
    else do return .value flag arg :: (← arguments flags none rest)
  | none, "--" :: rest => .ok (rest.map .file)
  | none, arg :: rest => do
    let understood ← argument flags arg
    if understood.given.any Given.isLast then return understood.given
    return understood.given ++ (← arguments flags understood.waiting rest)

def valuesOf (flag : Flag) (gs : List Given) : List String :=
  gs.filterMap fun
    | .value f text => if f = flag then some text else none
    | _ => none

def filesOf (gs : List Given) : List String :=
  gs.filterMap fun
    | .file name => some name
    | _ => none

/-- The value of an option that is given at most once. -/
def single (flag : Flag) (gs : List Given) : Except UsageError (Option String) :=
  match valuesOf flag gs with
  | [] => .ok none
  | [value] => .ok (some value)
  | _ => .error (.repeated flag)

/-- Whether a flag is given; it is given at most once. -/
def isGiven (flag : Flag) (gs : List Given) : Except UsageError Bool :=
  match gs.count (.flag flag) with
  | 0 => .ok false
  | 1 => .ok true
  | _ => .error (.repeated flag)

/-- A name of a file or a directory is not empty. -/
def path (name : String) : Except UsageError String :=
  if name.isEmpty then .error .emptyFile else .ok name

def file (gs : List Given) : Except UsageError (Option String) :=
  match filesOf gs with
  | [] => .ok none
  | [name] => some <$> path name
  | _ :: name :: _ => .error (.unexpected name)

def targetNames : List (String × Target) :=
  [("python", .python), ("typescript", .typeScript), ("ts", .typeScript), ("rust", .rust)]

def targetNamed (name : String) : Except UsageError Target :=
  match targetNames.find? (·.1 == name) with
  | some (_, t) => .ok t
  | none => .error (.invalidValue .target name)

/-- Splits a text into its sign, which tells whether a number is negative, and the rest. -/
def splitSign : List Char → Bool × List Char
  | '+' :: cs => (false, cs)
  | '-' :: cs => (true, cs)
  | cs => (false, cs)

/-- A port is an integer from 0 to 65535 in decimal digits, with an optional sign. -/
def portOf (text : String) : Except UsageError UInt16 :=
  let (negative, digits) := splitSign text.toList
  let value := digits.foldl (fun n c => 10 * n + (c.toNat - '0'.toNat)) 0
  if digits.isEmpty || !digits.all Char.isDigit || value > 65535 || (negative && value != 0) then
    .error (.invalidValue .port text)
  else .ok (UInt16.ofNat value)

/-- What the arguments of a command say, without regard to what is missing. -/
structure Settings where
  file : Option String
  json : Bool
  manifest : Bool
  targets : List Target
  out : Option String
  host : Option String
  port : Option UInt16

/-- The settings that arguments give. Several targets are only given where a command allows it. -/
def settings (manyTargets : Bool) (gs : List Given) : Except UsageError Settings := do
  let _ ← isGiven .verbose gs
  let names := valuesOf .target gs
  if !manyTargets && names.length > 1 then throw (.repeated .target)
  let out ← single .out gs
  let port ← single .port gs
  return {
    file := ← file gs
    json := ← isGiven .json gs
    manifest := ← isGiven .manifest gs
    targets := ← names.mapM targetNamed
    out := ← out.mapM path
    host := ← single .host gs
    port := ← port.mapM portOf }

inductive Command
  | ir (file : String) (asJson : Bool)
  | check (file : String)
  | emit (file : String) (target : Target) (manifest : Bool)
  | build (file out : String) (targets : List Target) (options : Options)

/-- The targets of a build: those that are asked for, each once, or all. -/
def buildTargets (requested : List Target) : List Target :=
  if requested.isEmpty then Target.all else distinct requested

namespace Settings

/-- What a command cannot do without. -/
def required {α : Type} (cause : UsageError) : Option α → Except UsageError α
  | some a => .ok a
  | none => .error cause

def ir (s : Settings) : Except UsageError Command := do
  return .ir (← required .missingFile s.file) s.json

def check (s : Settings) : Except UsageError Command := do
  return .check (← required .missingFile s.file)

def emit (s : Settings) : Except UsageError Command := do
  return .emit (← required .missingFile s.file) (s.targets.head?.getD .rust) s.manifest

def build (s : Settings) : Except UsageError Command := do
  return .build (← required .missingFile s.file) (← required (.missing .out) s.out) s.targets
    ⟨s.host, s.port⟩

end Settings

inductive Invocation
  | version
  | help
  | run (command : Command)

/-- How a command is called: its name, its flags besides those that every command has, whether it
takes several targets, and the command that settings make. -/
structure Form where
  name : String
  flags : List Flag
  manyTargets : Bool
  make : Settings → Except UsageError Command

def forms : List Form :=
  [⟨"ir", [.json], false, Settings.ir⟩, ⟨"check", [], false, Settings.check⟩,
    ⟨"emit", [.target, .manifest], false, Settings.emit⟩,
    ⟨"build", [.out, .target, .host, .port], true, Settings.build⟩]

def Form.invocation (f : Form) (args : List String) : Except UsageError Invocation := do
  let gs ← arguments (.verbose :: .help :: f.flags) none args
  let given ← settings f.manyTargets gs
  if gs.contains (.flag .help) then return .help
  return .run (← f.make given)

def formNamed (name : String) : Except UsageError Form :=
  match forms.find? (·.name == name) with
  | some f => .ok f
  | none => .error (.unknownCommand name)

/-- Help on the program or on one of its commands. -/
def helpInvocation : List String → Except UsageError Invocation
  | [] => .ok .help
  | ["help"] => .ok .help
  | name :: rest => do
    let _ ← formNamed name
    match rest with
    | [] => return .help
    | other :: _ => throw (.unknownCommand other)

/-- Reads flags and the name of a command with its arguments; `verbose` tells whether that flag was
given before. -/
def invocation (verbose : Bool) : List String → Except UsageError Invocation
  | [] => .error .missingCommand
  | arg :: rest =>
    if arg == "--" then .error .missingCommand
    else if isOption arg then do
      let understood ← argument [.verbose, .version, .help] arg
      if understood.given.count (.flag .verbose) + verbose.toNat > 1 then throw (.repeated .verbose)
      if understood.given.contains (.flag .version) then return .version
      if understood.given.contains (.flag .help) then return .help
      invocation true rest
    else if arg == "help" then helpInvocation rest
    else do
      let f ← formNamed arg
      f.invocation rest

def parse (args : List String) : Except UsageError Invocation := invocation false args

end ServiceCompiler.CommandLine
