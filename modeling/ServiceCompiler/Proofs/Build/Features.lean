import ServiceCompiler.Plan.Feature
import ServiceCompiler.Proofs.Build.Registry

/-! # Features of declarations

The features of a service are read off its registry and its lists. They are those that the
declarations of its program ask for one by one, whatever else the program declares. -/

namespace ServiceCompiler

open ServiceCompiler.Core (StandardProvider)
open Plan (Feature FeatureSet)

def Core.StandardProvider.feature : StandardProvider → Feature
  | database => .database
  | redis => .redis
  | mongoDb => .mongo
  | llm => .llm

def Plan.Feature.ofProvider (type : String) : Feature :=
  match StandardProvider.ofTypeName? type with
  | some standard => standard.feature
  | none => .customProviders

namespace Surface

/-- The features that the form of a declaration needs. -/
def Item.traits : Item → List Feature
  | .route r => if r.auth.isSome then [.auth] else []
  | .resolver r => .graphql :: if r.operation = .subscription then [.subscriptions] else []
  | .rpcService _ | .rpcHandler _ => [.rpc]
  | .socket _ => [.socket]
  | .cron _ => [.cron]
  | .event _ => [.events]
  | .queue _ => [.queues]
  | .command _ => [.commands]
  | _ => []

def Item.features (item : Item) : List Feature :=
  (item.injections.filterMap Injection.provider?).map Feature.ofProvider ++ item.traits

end Surface

namespace Build

open Outcome

/-! ## From declarations to bindings -/

def Binding.traits : Binding → List Feature
  | route r => if r.auth.isSome then [.auth] else []
  | resolver r => .graphql :: if r.operation = .subscription then [.subscriptions] else []
  | rpcMethods _ _ | rpcHandler _ => [.rpc]
  | socket _ => [.socket]
  | cron _ => [.cron]
  | event _ => [.events]
  | queue _ => [.queues]
  | command _ => [.commands]
  | function _ | constant _ => []

def Binding.features (b : Binding) : List Feature :=
  b.injections.map (Feature.ofProvider ·.type) ++ b.traits

theorem traits_lowerBinding {number : Nat} {item : Surface.Item} {found : Option Binding}
    (hLower : lowerBinding number item = .ok found) :
    (found.map (·.traits)).getD [] = item.traits := by
  cases item with
  | route r =>
    simp only [lowerBinding, lowerRoute, bind_eq_ok, pure_eq_ok] at hLower
    obtain ⟨_, ⟨_, -, _, -, _, -, _, -, hRoute⟩, hFound⟩ := hLower
    cases hRoute
    cases hFound
    simp [Binding.traits, Surface.Item.traits]
  | resolver r =>
    simp only [lowerBinding, lowerResolver, bind_eq_ok, pure_eq_ok] at hLower
    obtain ⟨_, ⟨_, -, _, -, _, -, hResolver⟩, hFound⟩ := hLower
    cases hResolver
    cases hFound
    rfl
  | function f | cron j | event h | queue w | command c | rpcService s | rpcHandler h | constant c =>
    simp only [lowerBinding, bind_eq_ok, pure_eq_ok] at hLower
    obtain ⟨_, -, hFound⟩ := hLower
    cases hFound
    rfl
  | _ =>
    cases hLower
    rfl

theorem filterMap_of_mapM {α β : Type} {f : α → Option β} {as : List α} {bs : List β}
    (h : as.mapM f = some bs) : as.filterMap f = bs := by
  induction as generalizing bs with
  | nil =>
    cases h
    rfl
  | cons a as ih =>
    simp only [List.mapM_cons, Option.bind_eq_bind, Option.bind_eq_some_iff, Option.pure_def,
      Option.some.injEq] at h
    obtain ⟨b, hFirst, rest, hRest, rfl⟩ := h
    rw [List.filterMap_cons_some hFirst, ih hRest]

theorem features_lowerBinding {number : Nat} {item : Surface.Item} {found : Option Binding}
    (hLower : lowerBinding number item = .ok found) :
    (found.map (·.features)).getD [] = item.features := by
  have hTypes := filterMap_of_mapM (injectedTypes_lowerBinding hLower)
  rw [Surface.Item.features, hTypes, ← traits_lowerBinding hLower]
  cases found with
  | none => rfl
  | some b => simp [injectedTypes, Binding.features]

/-! ## From bindings to the service -/

theorem ofProvider_eq_feature {type : String} {standard : StandardProvider} :
    Feature.ofProvider type = standard.feature ↔ type = standard.typeName := by
  rw [← StandardProvider.ofTypeName?_eq_some, Feature.ofProvider]
  cases StandardProvider.ofTypeName? type with
  | none => cases standard <;> simp [StandardProvider.feature]
  | some other => cases other <;> cases standard <;> decide

theorem ofProvider_eq_custom {type : String} :
    Feature.ofProvider type = .customProviders ↔ StandardProvider.ofTypeName? type = none := by
  rw [Feature.ofProvider]
  cases StandardProvider.ofTypeName? type with
  | none => simp
  | some standard => cases standard <;> decide

def injected : List Feature := [.database, .redis, .mongo, .llm, .customProviders]

theorem ofProvider_mem_injected (type : String) : Feature.ofProvider type ∈ injected := by
  rw [Feature.ofProvider]
  cases StandardProvider.ofTypeName? type with
  | none => decide
  | some standard => cases standard <;> decide

theorem not_mem_traits {b : Binding} {feature : Feature} (h : feature ∈ injected) :
    feature ∉ b.traits := by
  have hTraits : ∀ trait ∈ b.traits, trait ∉ injected := by
    intro trait hTrait
    cases b <;> simp [Binding.traits] at hTrait <;> grind [injected]
  exact fun hTrait => hTraits feature hTrait h

section Assembled

variable (name : String) (d : Declarations) (bs : List Binding)

theorem needed_injected {feature : Feature} (h : feature ∈ injected) :
    (∃ b ∈ bs, feature ∈ b.features) ↔
      ∃ type ∈ bs.flatMap fun b => b.injections.map (·.type), Feature.ofProvider type = feature := by
  simp only [Binding.features, List.mem_append, not_mem_traits h, or_false, List.mem_map,
    List.mem_flatMap]
  constructor
  · rintro ⟨b, hb, i, hi, hFeature⟩
    exact ⟨i.type, ⟨b, hb, i, hi, rfl⟩, hFeature⟩
  · rintro ⟨_, ⟨b, hb, i, hi, rfl⟩, hFeature⟩
    exact ⟨b, hb, i, hi, hFeature⟩

theorem type_mem_providers (type : String) :
    type ∈ (bs.flatMap fun b => b.injections.map (·.type)) ↔
      ∃ provider ∈ (assemble name d bs).providers, provider.type = type := by
  rw [← List.mem_map, assemble, map_type_registry, List.mem_eraseDups]

theorem uses_assemble (standard : StandardProvider) :
    (assemble name d bs).uses standard ↔ ∃ b ∈ bs, standard.feature ∈ b.features := by
  have hInjected : standard.feature ∈ injected := by cases standard <;> decide
  rw [needed_injected bs hInjected]
  simp only [ofProvider_eq_feature, exists_eq_right, type_mem_providers name d]
  simp [Core.Service.uses, Core.Service.provider?]

theorem custom_assemble :
    (assemble name d bs).providers.any (!·.isStandard) ↔
      ∃ b ∈ bs, Feature.customProviders ∈ b.features := by
  rw [needed_injected bs (by decide)]
  simp only [ofProvider_eq_custom, type_mem_providers name d, List.any_eq_true]
  constructor
  · rintro ⟨provider, hProvider, hCustom⟩
    obtain ⟨type, -, rfl⟩ := mem_registry.mp hProvider
    exact ⟨type, ⟨_, hProvider, rfl⟩, by simpa [contracted, Core.Provider.of] using hCustom⟩
  · rintro ⟨_, ⟨provider, hProvider, rfl⟩, hCustom⟩
    obtain ⟨type, -, rfl⟩ := mem_registry.mp hProvider
    have hNone : StandardProvider.ofTypeName? type = none := hCustom
    exact ⟨_, hProvider, by simp [contracted, Core.Provider.of, hNone]⟩

/-- A feature that some bindings of one kind need. -/
theorem needed_trait {α : Type} {select : Binding → Option α} {test : α → Bool} {feature : Feature}
    (hOther : feature ∉ injected)
    (hTrait : ∀ b, feature ∈ b.traits ↔ ∃ a, select b = some a ∧ test a) :
    (bs.filterMap select).any test ↔ ∃ b ∈ bs, feature ∈ b.features := by
  have hFeature (b : Binding) : feature ∈ b.features ↔ ∃ a, select b = some a ∧ test a := by
    rw [Binding.features, List.mem_append, hTrait, or_iff_right]
    intro hMem
    obtain ⟨i, -, rfl⟩ := List.mem_map.mp hMem
    exact hOther (ofProvider_mem_injected i.type)
  simp only [hFeature, List.any_eq_true, List.mem_filterMap]
  constructor
  · rintro ⟨a, ⟨b, hb, hSelect⟩, hTest⟩
    exact ⟨b, hb, a, hSelect, hTest⟩
  · rintro ⟨b, hb, a, hSelect, hTest⟩
    exact ⟨a, ⟨b, hb, hSelect⟩, hTest⟩

/-- A feature that every binding of one kind needs. -/
theorem needed_kind {α : Type} {select : Binding → Option α} {feature : Feature}
    (hOther : feature ∉ injected) (hTrait : ∀ b, feature ∈ b.traits ↔ ∃ a, select b = some a) :
    !(bs.filterMap select).isEmpty ↔ ∃ b ∈ bs, feature ∈ b.features := by
  have hAny (as : List α) : (!as.isEmpty) = as.any fun _ => true := by
    cases as <;> rfl
  rw [hAny]
  exact needed_trait bs hOther (by simpa using hTrait)

theorem neededBy_assemble (feature : Feature) :
    Feature.neededBy (assemble name d bs) feature ↔ ∃ b ∈ bs, feature ∈ b.features := by
  cases feature with
  | database => exact uses_assemble name d bs .database
  | redis => exact uses_assemble name d bs .redis
  | mongo => exact uses_assemble name d bs .mongoDb
  | llm => exact uses_assemble name d bs .llm
  | customProviders => exact custom_assemble name d bs
  | auth =>
    refine needed_trait bs (by decide) fun b => ?_
    cases b <;> simp [Binding.traits]
  | subscriptions =>
    refine needed_trait bs (by decide) fun b => ?_
    cases b <;> simp [Binding.traits]
  | rpc =>
    -- A handler makes a remote service too, and a service that is named twice is listed once.
    have hServices : (rpcServices bs).isEmpty = (bs.filterMap Binding.rpcName?).isEmpty := by
      cases hNames : bs.filterMap Binding.rpcName? <;> simp [rpcServices, hNames, distinct]
    rw [Feature.neededBy, assemble, hServices]
    refine needed_kind bs (by decide) fun b => ?_
    cases b <;> simp [Binding.traits, Binding.rpcName?]
  | _ =>
    refine needed_kind bs (by decide) fun b => ?_
    cases b <;> simp [Binding.traits]

end Assembled

theorem features_of_items {p : Surface.Program} {b : Built} (hBuild : build p = .ok b) :
    FeatureSet.of b.service = .ofList (p.items.flatMap (·.features)) := by
  obtain ⟨d, bs, -, hBindings, rfl⟩ := build_eq_ok.mp hBuild
  ext feature
  rw [Bool.eq_iff_iff, ← flatMap_bindings features_lowerBinding hBindings]
  refine (neededBy_assemble _ d bs feature).trans ?_
  simp [FeatureSet.ofList]

theorem ofList_append (fs gs : List Feature) :
    FeatureSet.ofList (fs ++ gs) = .ofList fs ∪ .ofList gs := by
  ext feature
  simp [FeatureSet.ofList]

end Build

end ServiceCompiler
