import Mathlib.Data.List.ReduceOption
import ServiceCompiler.Proofs.Build.Declarations
import ServiceCompiler.Proofs.Build.Injection
import ServiceCompiler.Proofs.Distinct

/-! # The registry of dependencies

A service registers what its bindings inject, each time anew; a type that is registered already
stays as it is. Main statement: registering the types of all injections of the program, one after
the other, leaves each of them once, in order of their first occurrence; a dependency has the
methods of the contract of its name, wherever in the program that is declared; and no binding of
the service has an injection that is not registered. -/

namespace ServiceCompiler

def Core.Service.injections (s : Core.Service) : List Core.Injection :=
  s.routes.flatMap (·.injections) ++ s.cronJobs.flatMap (·.injections) ++
    s.events.flatMap (·.injections) ++ s.queues.flatMap (·.injections) ++
    (s.rpc.flatMap (·.handlers)).flatMap (·.injections) ++ s.resolvers.flatMap (·.injections)

end ServiceCompiler

namespace ServiceCompiler.Build

open Outcome

/-! ## From surface injections to bindings -/

/-- The types that a lowered declaration injects; there are none where there is no binding. -/
def injectedTypes (found : Option Binding) : List String :=
  ((found.map (·.injections)).getD []).map (·.type)

theorem injectedTypes_lowerBinding {number : Nat} {item : Surface.Item} {found : Option Binding}
    (hLower : lowerBinding number item = .ok found) :
    item.injections.mapM Surface.Injection.provider? = some (injectedTypes found) := by
  cases item with
  | route r =>
    simp only [lowerBinding, lowerRoute, bind_eq_ok, pure_eq_ok] at hLower
    obtain ⟨_, ⟨js, hInjections, _, -, _, -, _, -, hRoute⟩, hFound⟩ := hLower
    cases hRoute
    cases hFound
    exact lowerInjections_eq_ok hInjections
  | cron j | event h | queue w =>
    simp only [lowerBinding, bind_eq_ok, pure_eq_ok] at hLower
    obtain ⟨js, hInjections, hFound⟩ := hLower
    cases hFound
    exact lowerInjections_eq_ok hInjections
  | rpcHandler h =>
    simp only [lowerBinding, lowerRpcHandler, bind_eq_ok, pure_eq_ok] at hLower
    obtain ⟨_, ⟨_, -, _, -, js, hInjections, hHandler⟩, hFound⟩ := hLower
    cases hHandler
    cases hFound
    exact lowerInjections_eq_ok hInjections
  | resolver r =>
    simp only [lowerBinding, lowerResolver, bind_eq_ok, pure_eq_ok] at hLower
    obtain ⟨_, ⟨_, -, _, -, js, hInjections, hResolver⟩, hFound⟩ := hLower
    cases hResolver
    cases hFound
    exact lowerInjections_eq_ok hInjections
  | function f | command c | rpcService s | constant c =>
    simp only [lowerBinding, bind_eq_ok, pure_eq_ok] at hLower
    obtain ⟨_, -, hFound⟩ := hLower
    cases hFound
    rfl
  | _ =>
    cases hLower
    rfl

/-- An item that messages do not name binds nothing in any case. -/
theorem lowerBinding_of_bind {entry : Nat × Surface.Item} {found : Option Binding}
    (hBind : bind entry = .ok found) : lowerBinding entry.1 entry.2 = .ok found := by
  obtain ⟨number, item⟩ := entry
  cases hScope : scope number item with
  | none =>
    obtain rfl : none = found := by simpa [bind, hScope] using hBind
    cases item with
    | moduleName | importing | test | macroDecl | traitDecl | staticRoute | unsupported => rfl
    | _ => cases hScope
  | some place => simpa only [bind, hScope, within, mapError_eq_ok] using hBind

theorem flatMap_numbered {α : Type} {view : Binding → List α} {look : Surface.Item → List α}
    (hView : ∀ {number item found}, lowerBinding number item = .ok found →
      (found.map view).getD [] = look item)
    {jobs : Nat} {items : List Surface.Item} {found : List (Option Binding)}
    (hRun : (numbered jobs items).mapM bind = .ok found) :
    found.reduceOption.flatMap view = items.flatMap look := by
  induction items generalizing jobs found with
  | nil =>
    cases hRun
    rfl
  | cons item items ih =>
    obtain ⟨first, rest, hFirst, hRest, rfl⟩ := mapM_cons_eq_ok.mp hRun
    rw [List.flatMap_cons, ← hView (lowerBinding_of_bind hFirst), ← ih hRest]
    cases first with
    | none => rfl
    | some b => rfl

/-- What each binding shows of its item, all bindings show of the program. -/
theorem flatMap_bindings {α : Type} {view : Binding → List α} {look : Surface.Item → List α}
    (hView : ∀ {number item found}, lowerBinding number item = .ok found →
      (found.map view).getD [] = look item)
    {items : List Surface.Item} {bs : List Binding} (hBindings : bindings items = .ok bs) :
    bs.flatMap view = items.flatMap look := by
  simp only [bindings, bind_eq_ok] at hBindings
  obtain ⟨found, hRun, hFound⟩ := hBindings
  cases hFound
  exact flatMap_numbered hView hRun

theorem injectedTypes_numbered {jobs : Nat} {items : List Surface.Item}
    {found : List (Option Binding)} (hRun : (numbered jobs items).mapM bind = .ok found) :
    (items.flatMap (·.injections)).mapM Surface.Injection.provider? =
      some (found.reduceOption.flatMap fun b => b.injections.map (·.type)) := by
  induction items generalizing jobs found with
  | nil =>
    cases hRun
    rfl
  | cons item items ih =>
    obtain ⟨first, rest, hFirst, hRest, rfl⟩ := mapM_cons_eq_ok.mp hRun
    have hItem := injectedTypes_lowerBinding (lowerBinding_of_bind hFirst)
    rw [List.flatMap_cons, List.mapM_append, hItem, ih hRest]
    cases first with
    | none => rw [List.reduceOption_cons_of_none]; rfl
    | some b => simp [injectedTypes, List.reduceOption_cons_of_some]

/-! ## From bindings to the service -/

theorem mem_injections_of_filterMap {α : Type} {bs : List Binding} {select : Binding → Option α}
    {injections : α → List Core.Injection} {i : Core.Injection}
    (hSelect : ∀ b a, select b = some a → injections a = b.injections)
    (hMem : i ∈ (bs.filterMap select).flatMap injections) : ∃ b ∈ bs, i ∈ b.injections := by
  obtain ⟨a, hA, hI⟩ := List.mem_flatMap.mp hMem
  obtain ⟨b, hB, hFound⟩ := List.mem_filterMap.mp hA
  exact ⟨b, hB, hSelect b a hFound ▸ hI⟩

theorem mem_rpcHandlersOf {service : String} {b : Binding} {h : Core.RpcHandler}
    (hMem : h ∈ b.rpcHandlersOf service) : b = .rpcHandler h := by
  cases b with
  | rpcHandler handler =>
    simp only [Binding.rpcHandlersOf] at hMem
    split at hMem
    · rw [List.mem_singleton.mp hMem]
    · cases hMem
  | _ => cases hMem

theorem mem_injections_rpcServices {bs : List Binding} {i : Core.Injection}
    (hMem : i ∈ ((rpcServices bs).flatMap (·.handlers)).flatMap (·.injections)) :
    ∃ b ∈ bs, i ∈ b.injections := by
  obtain ⟨h, hHandler, hI⟩ := List.mem_flatMap.mp hMem
  obtain ⟨s, hService, hHandler⟩ := List.mem_flatMap.mp hHandler
  obtain ⟨service, -, rfl⟩ := List.mem_map.mp hService
  obtain ⟨b, hB, hHandler⟩ := List.mem_flatMap.mp hHandler
  obtain rfl := mem_rpcHandlersOf hHandler
  exact ⟨_, hB, hI⟩

theorem mem_injections_assemble {name : String} {d : Declarations} {bs : List Binding}
    {i : Core.Injection} (hMem : i ∈ (assemble name d bs).injections) :
    ∃ b ∈ bs, i ∈ b.injections := by
  simp only [Core.Service.injections, List.mem_append] at hMem
  rcases hMem with ((((hField | hField) | hField) | hField) | hRpc) | hField
  case inl.inr => exact mem_injections_rpcServices hRpc
  all_goals
    refine mem_injections_of_filterMap (fun b a hSelect => ?_) hField
    cases b <;> cases hSelect
    rfl

/-! ## Registering -/

section Registering

variable (contracts : Contracts)

/-- The dependencies are told apart by their types, so a second one of a type is dropped. -/
theorem foldl_register (types : List String) :
    types.foldl (register contracts) [] =
      firsts (·.type) (types.map (contracted contracts)) := by
  rw [firsts, List.foldl_map]
  rfl

theorem map_type_foldl_register (types : List String) :
    (types.foldl (register contracts) []).map (·.type) = types.eraseDups := by
  have hTypes : (types.map (contracted contracts)).map (·.type) = types := by
    rw [List.map_map]
    exact List.map_id _
  rw [foldl_register, map_firsts, hTypes, distinct_eq_eraseDups]

theorem mem_foldl_register {types : List String} {provider : Core.Provider} :
    provider ∈ types.foldl (register contracts) [] ↔
      ∃ type ∈ types, contracted contracts type = provider := by
  rw [foldl_register, mem_firsts_iff, List.mem_map]
  intro x hX y hY hTypes
  obtain ⟨type, -, rfl⟩ := List.mem_map.mp hX
  obtain ⟨other, -, rfl⟩ := List.mem_map.mp hY
  exact congrArg (contracted contracts) hTypes

theorem nodup_registry (bs : List Binding) : (registry contracts bs).Nodup := by
  rw [registry, foldl_register]
  exact nodup_firsts _

theorem map_type_registry (bs : List Binding) :
    (registry contracts bs).map (·.type) =
      (bs.flatMap fun b => b.injections.map (·.type)).eraseDups :=
  map_type_foldl_register contracts _

variable {contracts}

theorem mem_registry {bs : List Binding} {provider : Core.Provider} :
    provider ∈ registry contracts bs ↔
      ∃ type ∈ bs.flatMap fun b => b.injections.map (·.type),
        contracted contracts type = provider :=
  mem_foldl_register contracts

theorem type_mem_registry {bs : List Binding} {b : Binding} {i : Core.Injection} (hB : b ∈ bs)
    (hI : i ∈ b.injections) : ∃ provider ∈ registry contracts bs, provider.type = i.type := by
  have hType : i.type ∈ bs.flatMap fun b => b.injections.map (·.type) :=
    List.mem_flatMap.mpr ⟨b, hB, List.mem_map_of_mem hI⟩
  exact ⟨_, mem_registry.mpr ⟨_, hType, rfl⟩, rfl⟩

end Registering

/-! ## The registry -/

/-- A dependency as it comes, but with the methods of the contract of its name if the program has
one. -/
structure Registered (items : List Surface.Item) (provider : Core.Provider) : Prop where
  plain : provider = { Core.Provider.of provider.type [] with methods := provider.methods }
  contract : ∀ c, .contract c ∈ items → c.name = provider.type →
    lowerSignatures 0 c.methods = .ok provider.methods
  noContract : (∀ c, .contract c ∈ items → c.name ≠ provider.type) → provider.methods = []

theorem Declared.registered {items : List Surface.Item} {d : Declarations}
    (hDeclared : Declared items d) {bs : List Binding} {provider : Core.Provider}
    (hMem : provider ∈ registry d.contracts bs) : Registered items provider := by
  obtain ⟨type, -, rfl⟩ := mem_registry.mp hMem
  refine ⟨rfl, ?_, ?_⟩
  · rintro c hContract rfl
    obtain ⟨methods, hLower, hLookup⟩ := hDeclared.signatures c hContract
    simpa [contracted, Core.Provider.of, hLookup] using hLower
  · intro hNone
    have hNew : type ∉ d.contracts.map (·.1) := by
      rw [hDeclared.contracts, List.mem_filterMap]
      rintro ⟨item, hItem, hName⟩
      cases item with
      | contract c => exact hNone c hItem (Option.some.inj hName)
      | _ => cases hName
    simp [contracted, Core.Provider.of, lookup_eq_none_of_not_mem hNew]

/-- The registry of a service that was built: what is left of registering the type of each injection
of the program in turn. -/
theorem providers_of_build {p : Surface.Program} {b : Built} (hBuild : build p = .ok b) :
    (∃ d types, declarations p.items = .ok d ∧
      (p.items.flatMap (·.injections)).mapM Surface.Injection.provider? = some types ∧
        b.service.providers = types.foldl (register d.contracts) [] ∧
        b.service.providers.map (·.type) = types.eraseDups) ∧
      (∀ provider ∈ b.service.providers, Registered p.items provider) ∧
      ∀ i ∈ b.service.injections, ∃ provider ∈ b.service.providers, provider.type = i.type := by
  simp only [build, service, bindings, bind_eq_ok, pure_eq_ok] at hBuild
  obtain ⟨_, ⟨d, hDeclare, bs, ⟨found, hBind, hBindings⟩, hService⟩, hBuilt⟩ := hBuild
  cases hBindings
  cases hService
  cases hBuilt
  refine ⟨⟨d, _, hDeclare, injectedTypes_numbered hBind, rfl, map_type_registry d.contracts _⟩,
    ?_, ?_⟩
  · intro provider hMem
    exact (declared_of_declarations hDeclare).registered hMem
  · intro i hMem
    obtain ⟨binding, hBinding, hI⟩ := mem_injections_assemble hMem
    exact type_mem_registry hBinding hI

/-- A contract that stands behind the injection of its dependency, beside a built-in dependency that
is injected twice, once by its name. -/
def shop : Surface.Program where
  items := [
    .event ⟨"paid", true, [⟨"db", some .database⟩, ⟨"ledger", some (.named "Ledger")⟩], []⟩,
    .cron ⟨"", "0 0 * * *", none, 0, [⟨"store", some (.named "Database")⟩], []⟩,
    .contract ⟨"Ledger", [⟨"total", [⟨"of", some .string, true, none, []⟩], some .int⟩]⟩]

theorem providers_of_build_shop :
    ∃ b, build shop = .ok b ∧
      b.service.providers.map (fun provider => (provider.type, provider.methods.map (·.name))) =
        [("Database", []), ("Ledger", ["total"])] ∧
      (∀ provider ∈ b.service.providers, Registered shop.items provider) ∧
      ∀ i ∈ b.service.injections, ∃ provider ∈ b.service.providers, provider.type = i.type := by
  have hBuild : ∃ b, build shop = .ok b := ⟨_, rfl⟩
  obtain ⟨b, hBuild⟩ := hBuild
  refine ⟨b, hBuild, ?_, (providers_of_build hBuild).2⟩
  cases hBuild
  rfl

end ServiceCompiler.Build
