import ServiceCompiler.Text.Split

/-! # Diagnostics

What a compilation has to say: a level, a code, a message, where it applies, and remarks. -/

namespace ServiceCompiler

inductive Level
  | error | warning | note
  deriving DecidableEq, Repr

namespace Level

def name : Level → String
  | error => "error"
  | warning => "warning"
  | note => "note"

/-- The gravest level comes first. -/
def rank : Level → Nat
  | error => 0
  | warning => 1
  | note => 2

end Level

/-- A letter for the family of findings, and a number in it. -/
structure Code where
  category : Char
  number : Nat
  deriving DecidableEq, Repr

namespace Code

/-- The number has three digits at least. -/
def text (c : Code) : String :=
  let digits := Nat.toDigits 10 c.number
  String.ofList (c.category :: List.replicate (3 - digits.length) '0' ++ digits)

def emptyTypeName : Code := ⟨'B', 1⟩
def notAProvider : Code := ⟨'B', 2⟩
def missingInjectionName : Code := ⟨'B', 3⟩
def duplicateDeclaration : Code := ⟨'B', 4⟩
def unnamedContractMethod : Code := ⟨'B', 5⟩
def unsupportedStatement : Code := ⟨'W', 1⟩
def unsupportedExpression : Code := ⟨'W', 2⟩
def unsupportedPattern : Code := ⟨'W', 3⟩
def unsupportedType : Code := ⟨'W', 4⟩
def unsupportedItem : Code := ⟨'W', 5⟩

end Code

structure Diagnostic where
  level : Level
  code : Option Code
  message : String
  locations : List String
  notes : List String
  help : List String
  deriving DecidableEq

namespace Diagnostic

def of (level : Level) (message : String) : Diagnostic := ⟨level, none, message, [], [], []⟩

def display (d : Diagnostic) : String := s!"{d.level.name}: {d.message}"

end Diagnostic

def hasErrors (ds : List Diagnostic) : Bool := ds.any (·.level == .error)

def warningCount (ds : List Diagnostic) : Nat := (ds.filter (·.level == .warning)).length

/-- The levels of a list of diagnostics, the gravest first. -/
def sortedLevels (ds : List Diagnostic) : List Level :=
  (ds.map (·.level)).mergeSort fun a b => a.rank ≤ b.rank

end ServiceCompiler
