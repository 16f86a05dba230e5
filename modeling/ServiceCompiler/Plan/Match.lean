import ServiceCompiler.Core.Tree

/-! # Plans of matches

A pattern becomes a list of checks, to be made from left to right, and a list of variables with the
way to the part that each is bound to. -/

namespace ServiceCompiler.Plan

open ServiceCompiler.Core (Expr Pattern PatternField MatchCase)

/-- A step from a value to a part of it. -/
inductive Access
  | key (name : String)
  | index (position : Nat)
  /-- The elements from a position to the end. -/
  | restFrom (position : Nat)
  deriving DecidableEq, Repr

inductive Check
  | isObject (path : List Access)
  | hasKey (path : List Access) (key : String)
  /-- An array of the given length, or of at least that length if it is not `exact`. -/
  | arrayLength (path : List Access) (length : Nat) (exact : Bool)
  | equals (path : List Access) (value : Literal)

structure Bound where
  name : String
  path : List Access
  deriving DecidableEq, Repr

mutual

def patternChecks (path : List Access) : Pattern → List Check
  | .wildcard => []
  | .variable _ => []
  | .literal value => [.equals path value]
  | .object fields => .isObject path :: fieldChecks path fields
  | .array elements rest =>
    .arrayLength path elements.length rest.isNone :: elementChecks path 0 elements

def fieldChecks (path : List Access) : List PatternField → List Check
  | [] => []
  | ⟨key, none⟩ :: fs => .hasKey path key :: fieldChecks path fs
  | ⟨key, some p⟩ :: fs =>
    .hasKey path key :: patternChecks (path ++ [.key key]) p ++ fieldChecks path fs

def elementChecks (path : List Access) (position : Nat) : List Pattern → List Check
  | [] => []
  | p :: ps =>
    patternChecks (path ++ [.index position]) p ++ elementChecks path (position + 1) ps

end

mutual

/-- The variables of a pattern; `_` is none. -/
def patternBounds (path : List Access) : Pattern → List Bound
  | .wildcard => []
  | .variable name => if name = "_" then [] else [⟨name, path⟩]
  | .literal _ => []
  | .object fields => fieldBounds path fields
  | .array elements rest =>
    elementBounds path 0 elements ++
      match rest with
      | some name => [⟨name, path ++ [.restFrom elements.length]⟩]
      | none => []

def fieldBounds (path : List Access) : List PatternField → List Bound
  | [] => []
  | ⟨key, none⟩ :: fs => ⟨key, path ++ [.key key]⟩ :: fieldBounds path fs
  | ⟨key, some p⟩ :: fs => patternBounds (path ++ [.key key]) p ++ fieldBounds path fs

def elementBounds (path : List Access) (position : Nat) : List Pattern → List Bound
  | [] => []
  | p :: ps =>
    patternBounds (path ++ [.index position]) p ++ elementBounds path (position + 1) ps

end

/-- A case of a match over bodies of any kind. -/
structure Case (α : Type) where
  pattern : Pattern
  guard : Option α
  body : α

/-- What a case asks for and binds, and what it does then. -/
structure Arm (α : Type) where
  checks : List Check
  bounds : List Bound
  guard : Option α
  body : α

/-- The arms in order, and the one that is taken if none of them passes. -/
structure MatchPlan (α : Type) where
  arms : List (Arm α)
  default : Option (Arm α)

variable {α : Type}

/-- Whether a case takes everything: a wildcard without guard. -/
def Case.isCatchAll (c : Case α) : Bool :=
  match c.pattern, c.guard with
  | .wildcard, none => true
  | _, _ => false

def Case.arm (c : Case α) : Arm α :=
  ⟨patternChecks [] c.pattern, patternBounds [] c.pattern, c.guard, c.body⟩

/-- The first case that takes everything becomes the default; the other cases keep their order. -/
def planMatch : List (Case α) → MatchPlan α
  | [] => ⟨[], none⟩
  | c :: cs =>
    if c.isCatchAll then ⟨cs.map Case.arm, some c.arm⟩
    else
      let plan := planMatch cs
      ⟨c.arm :: plan.arms, plan.default⟩

def exprCases (cs : List MatchCase) : List (Case Expr) :=
  cs.map fun c => ⟨c.pattern, c.guard, c.body⟩

end ServiceCompiler.Plan
