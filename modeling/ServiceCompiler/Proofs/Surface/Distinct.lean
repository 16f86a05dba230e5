import ServiceCompiler.Proofs.Surface.Content
import ServiceCompiler.Proofs.Surface.Reading

/-! # Objects with distinct keys

An object in which no key occurs twice is read field by field: what it gives depends only on what
stands under each name that its layout knows. -/

namespace ServiceCompiler.Surface

open ServiceCompiler.Json ServiceCompiler.Outcome

/-! ## Values under keys -/

section Lookup

variable {α : Type} {ms : List (String × α)} {key : String}

theorem lookup_cons_of_ne {other : String} {a : α} (hNe : key ≠ other) :
    ((other, a) :: ms).lookup key = ms.lookup key := by
  rw [List.lookup_cons, beq_false_of_ne hNe]

end Lookup

/-! ## Fields -/

def FieldSpec.read (spec : FieldSpec) (v : Json) : Conformed Datum :=
  if spec.allowsNull && v.isNull then pure .absent else conform spec.shape v

/-- What a field comes to whose value may be left out. -/
def FieldSpec.given (spec : FieldSpec) : Option Json → Conformed Datum
  | some v => spec.read v
  | none => spec.leftOut

/-- What an object with distinct keys gives for a field. -/
def FieldSpec.find (spec : FieldSpec) (ms : List (String × Json)) : Conformed Datum :=
  spec.given (ms.lookup spec.name)

def findAll (fields : List FieldSpec) (ms : List (String × Json)) : Conformed (List Datum) :=
  fields.mapM fun spec : FieldSpec => spec.find ms

/-- The field is found among the members if it is there, and otherwise as before. -/
structure FoundIn (spec : FieldSpec) (ms : List (String × Json)) (before after : List (String × Datum)) :
    Prop where
  present : ∀ v, ms.lookup spec.name = some v →
    ∃ d, spec.read v = .ok d ∧ after.lookup spec.name = some d
  absent : ms.lookup spec.name = none → after.lookup spec.name = before.lookup spec.name

theorem FoundIn.skip {spec : FieldSpec} {ms : List (String × Json)}
    {before after : List (String × Datum)} {key : String} {v : Json} (hOther : spec.name ≠ key)
    (hFound : FoundIn spec ms before after) : FoundIn spec ((key, v) :: ms) before after where
  present w hLookup := hFound.present w (by rwa [lookup_cons_of_ne hOther] at hLookup)
  absent hLookup := hFound.absent (by rwa [lookup_cons_of_ne hOther] at hLookup)

theorem FoundIn.take {spec : FieldSpec} {ms : List (String × Json)}
    {before after : List (String × Datum)} {v : Json} {d : Datum} (hRead : spec.read v = .ok d)
    (hLast : ms.lookup spec.name = none)
    (hFound : FoundIn spec ms ((spec.name, d) :: before) after) :
    FoundIn spec ((spec.name, v) :: ms) before after where
  present w hLookup := by
    obtain rfl : v = w := by simpa using hLookup
    exact ⟨d, hRead, by rw [hFound.absent hLast, List.lookup_cons_self]⟩
  absent hLookup := by simp at hLookup

theorem depthMembers_le {ms : List (String × Json)} {bound : Nat} :
    depthMembers ms ≤ bound ↔ ∀ m ∈ ms, m.2.depth ≤ bound := by
  induction ms with
  | nil => simp [depthMembers]
  | cons m ms ih =>
    obtain ⟨key, v⟩ := m
    rw [depthMembers, Nat.max_le, ih, List.forall_mem_cons]

end ServiceCompiler.Surface
