import ServiceCompiler.Build.Service
import ServiceCompiler.Proofs.Outcome

/-! # Injected dependencies

The dependencies of a declaration are those that its injections name. An injection is lowered to the
dependency that it asks for under the name that it gives, and to nothing else. -/

namespace ServiceCompiler.Core.StandardProvider

theorem ofTypeName?_eq_some {type : String} {standard : StandardProvider} :
    ofTypeName? type = some standard ↔ type = standard.typeName := by
  constructor
  · intro hFound
    unfold ofTypeName? at hFound
    have hName := List.find?_some hFound
    exact (beq_iff_eq.mp hName).symm
  · rintro rfl
    cases standard <;> rfl

end ServiceCompiler.Core.StandardProvider

namespace ServiceCompiler.Surface

/-- The dependency that an injection asks for: a built-in one or one with a name. -/
def Injection.provider? (i : Injection) : Option String :=
  match i.type with
  | some .database => some "Database"
  | some .redis => some "Redis"
  | some .mongoDb => some "MongoDB"
  | some .llm => some "LLM"
  | some (.named name) => if name = "" then none else some name
  | _ => none

def Item.injections : Item → List Injection
  | .route r => r.injections
  | .cron j => j.injections
  | .event h => h.injections
  | .queue w => w.injections
  | .rpcHandler h => h.injections
  | .resolver r => r.injections
  | _ => []

end ServiceCompiler.Surface

namespace ServiceCompiler.Build

open Outcome

theorem providerType_eq_ok {i : Surface.Injection} {type : String} :
    providerType i.name i.type = .ok type ↔ i.provider? = some type := by
  obtain ⟨name, t⟩ := i
  cases t with
  | none => simp [providerType, Surface.Injection.provider?]
  | some t =>
    cases t with
    | named given =>
      by_cases hEmpty : given = "" <;>
        simp [providerType, Surface.Injection.provider?, hEmpty]
    | database | redis | mongoDb | llm =>
      simp [providerType, Surface.Injection.provider?, Core.StandardProvider.typeName]
    | _ => simp [providerType, Surface.Injection.provider?, bind_eq_ok]

theorem lowerInjection_eq_ok {i : Surface.Injection} {j : Core.Injection} :
    lowerInjection i = .ok j ↔ i.provider? = some j.type ∧ i.name ≠ "" ∧ j.name = i.name := by
  obtain ⟨name, type⟩ := j
  simp only [lowerInjection, bind_eq_ok, providerType_eq_ok]
  constructor
  · rintro ⟨found, hFound, hRest⟩
    by_cases hEmpty : i.name = ""
    · simp [hEmpty] at hRest
    · obtain ⟨rfl, rfl⟩ : i.name = name ∧ found = type := by simpa [hEmpty] using hRest
      exact ⟨hFound, hEmpty, rfl⟩
  · rintro ⟨hFound, hNamed, rfl⟩
    exact ⟨type, hFound, by simp [hNamed]⟩

theorem lowerInjections_eq_ok {is : List Surface.Injection} {js : List Core.Injection}
    (hLower : lowerInjections is = .ok js) :
    is.mapM Surface.Injection.provider? = some (js.map (·.type)) := by
  induction is generalizing js with
  | nil =>
    obtain rfl : [] = js := by simpa [lowerInjections] using hLower
    rfl
  | cons i is ih =>
    obtain ⟨k, ks, hFirst, hRest, rfl⟩ := mapM_cons_eq_ok.mp hLower
    simp [(lowerInjection_eq_ok.mp hFirst).1, ih hRest]

end ServiceCompiler.Build
