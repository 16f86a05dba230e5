/-! # Groups

Entries with the same key, in the order of the first appearance of the keys. -/

namespace ServiceCompiler.Plan

variable {κ β : Type} [DecidableEq κ]

/-- Puts a value behind the others of its key; a new key comes last. -/
def enter (key : κ) (value : β) : List (κ × List β) → List (κ × List β)
  | [] => [(key, [value])]
  | (k, values) :: table =>
    if k = key then (k, values ++ [value]) :: table else (k, values) :: enter key value table

/-- The entries, entered one after the other. -/
def groups (entries : List (κ × β)) : List (κ × List β) :=
  entries.foldl (fun table e => enter e.1 e.2 table) []

end ServiceCompiler.Plan
