import Mathlib.Data.List.Induction
import ServiceCompiler.Proofs.Build.Registry

/-! # Remote services

Methods are declared and handled in any order, and a service may be declared in several places or by
a handler alone. Main statement: the services of a program are those that its declarations and
handlers name, in order of first occurrence; each has the methods and the handlers that the program
gives it, in program order, and nothing is lost or listed twice. The same table arises when the
bindings are entered one after the other, each under the first service of its name. -/

namespace ServiceCompiler.Surface

def Item.rpcName? : Item → Option String
  | .rpcService s => some s.name
  | .rpcHandler h => some h.service
  | _ => none

/-- The methods that an item declares, each under its service. -/
def Item.rpcMethods : Item → List (String × RpcMethod)
  | .rpcService s => s.methods.map (s.name, ·)
  | _ => []

def Item.rpcHandlers : Item → List (String × RpcHandler)
  | .rpcHandler h => [(h.service, h)]
  | _ => []

end ServiceCompiler.Surface

namespace ServiceCompiler.Build

open Outcome
open ServiceCompiler.Core (RpcService RpcMethod RpcHandler)

/-! ## From items to bindings -/

def Binding.methodEntries : Binding → List (String × RpcMethod)
  | rpcMethods service methods => methods.map (service, ·)
  | _ => []

def Binding.handlerEntries : Binding → List (String × RpcHandler)
  | rpcHandler h => [(h.service, h)]
  | _ => []

/-- Lowers an entry and leaves it under its service. -/
def lowerEntry {α β : Type} (lower : α → Lowered β) (entry : String × α) :
    Lowered (String × β) := do
  return (entry.1, ← lower entry.2)

theorem mapM_lowerEntry {α β : Type} {lower : α → Lowered β} (service : String) {as : List α}
    {bs : List β} (hLower : as.mapM lower = .ok bs) :
    (as.map (service, ·)).mapM (lowerEntry lower) = .ok (bs.map (service, ·)) := by
  induction as generalizing bs with
  | nil =>
    cases hLower
    rfl
  | cons a as ih =>
    obtain ⟨first, rest, hFirst, hRest, rfl⟩ := mapM_cons_eq_ok.mp hLower
    refine mapM_cons_eq_ok.mpr ⟨(service, first), _, ?_, ih hRest, rfl⟩
    simp [lowerEntry, hFirst]

/-- What an item has for remote services is found in its binding. -/
structure RpcLowered (item : Surface.Item) (found : Option Binding) : Prop where
  name : (found.map (·.rpcName?.toList)).getD [] = item.rpcName?.toList
  methods : item.rpcMethods.mapM (lowerEntry lowerRpcMethod) =
    .ok ((found.map (·.methodEntries)).getD [])
  handlers : item.rpcHandlers.mapM (lowerEntry lowerRpcHandler) =
    .ok ((found.map (·.handlerEntries)).getD [])

theorem service_lowerRpcHandler {h : Surface.RpcHandler} {lowered : RpcHandler}
    (hLower : lowerRpcHandler h = .ok lowered) : lowered.service = h.service := by
  simp only [lowerRpcHandler, bind_eq_ok, pure_eq_ok] at hLower
  obtain ⟨_, -, _, -, _, -, hLowered⟩ := hLower
  cases hLowered
  rfl

theorem rpcLowered_lowerBinding {number : Nat} {item : Surface.Item} {found : Option Binding}
    (hLower : lowerBinding number item = .ok found) : RpcLowered item found := by
  cases item with
  | rpcService s =>
    simp only [lowerBinding, bind_eq_ok, pure_eq_ok] at hLower
    obtain ⟨methods, hMethods, hFound⟩ := hLower
    cases hFound
    exact ⟨rfl, mapM_lowerEntry s.name hMethods, rfl⟩
  | rpcHandler h =>
    simp only [lowerBinding, bind_eq_ok, pure_eq_ok] at hLower
    obtain ⟨lowered, hHandler, hFound⟩ := hLower
    cases hFound
    have hService := service_lowerRpcHandler hHandler
    refine ⟨congrArg ([·]) hService, rfl, ?_⟩
    refine mapM_cons_eq_ok.mpr ⟨(h.service, lowered), [], ?_, rfl, ?_⟩
    · simp [lowerEntry, hHandler]
    · rw [← hService]
      rfl
  | route r | function f | cron j | event h | queue w | command c | resolver r | constant c =>
    simp only [lowerBinding, bind_eq_ok, pure_eq_ok] at hLower
    obtain ⟨_, -, hFound⟩ := hLower
    cases hFound
    exact ⟨rfl, rfl, rfl⟩
  | _ =>
    cases hLower
    exact ⟨rfl, rfl, rfl⟩

/-- What each item gives when it is lowered, the program gives. -/
theorem mapM_bindings {α β : Type} {lower : α → Lowered β} {look : Surface.Item → List α}
    {view : Binding → List β}
    (hView : ∀ {number item found}, lowerBinding number item = .ok found →
      (look item).mapM lower = .ok ((found.map view).getD []))
    {items : List Surface.Item} {bs : List Binding} (hBindings : bindings items = .ok bs) :
    (items.flatMap look).mapM lower = .ok (bs.flatMap view) := by
  simp only [bindings, bind_eq_ok] at hBindings
  obtain ⟨found, hRun, hFound⟩ := hBindings
  cases hFound
  -- the number of jobs before an item changes from item to item
  generalize 0 = jobs at hRun
  induction items generalizing jobs found with
  | nil =>
    cases hRun
    rfl
  | cons item items ih =>
    obtain ⟨first, rest, hFirst, hRest, rfl⟩ := mapM_cons_eq_ok.mp hRun
    rw [List.flatMap_cons, List.mapM_append, hView (lowerBinding_of_bind hFirst), ih _ _ hRest]
    cases first with
    | none => rfl
    | some b => rfl

/-! ## Grouped entries -/

/-- The services have exactly the given entries, each under its own service and in their order. -/
structure Grouped {β : Type} (services : List RpcService) (part : RpcService → List β)
    (entries : List (String × β)) : Prop where
  parts : ∀ s ∈ services, part s = (entries.filter (·.1 = s.name)).map (·.2)
  once : (services.flatMap fun s => (part s).map (s.name, ·)).Perm entries

theorem flatMap_filter_perm {α : Type} {keys : List String} (hNodup : keys.Nodup)
    {entries : List (String × α)} (hKeys : ∀ e ∈ entries, e.1 ∈ keys) :
    (keys.flatMap fun key => entries.filter (·.1 = key)).Perm entries := by
  induction keys generalizing entries with
  | nil =>
    cases entries with
    | nil => exact .refl _
    | cons e entries => exact absurd (hKeys e List.mem_cons_self) List.not_mem_nil
  | cons key keys ih =>
    obtain ⟨hNew, hRest⟩ := List.nodup_cons.mp hNodup
    -- the groups of the other keys are those of the entries without the first group
    have hGroups : (keys.flatMap fun other => entries.filter (·.1 = other)) = keys.flatMap
        fun other => (entries.filter fun e => !decide (e.1 = key)).filter (·.1 = other) := by
      refine List.flatMap_congr fun other hOther => ?_
      rw [List.filter_filter]
      refine List.filter_congr fun e _ => ?_
      by_cases hSame : e.1 = other
      · have hApart : other ≠ key := fun hKey => hNew (hKey ▸ hOther)
        simp [hSame, hApart]
      · simp [hSame]
    rw [List.flatMap_cons, hGroups]
    refine (List.Perm.append_left _ (ih hRest ?_)).trans (List.filter_append_perm _ entries)
    intro e hEntry
    obtain ⟨hMem, hApart⟩ := List.mem_filter.mp hEntry
    rcases List.mem_cons.mp (hKeys e hMem) with hSame | hLater
    · simp [hSame] at hApart
    · exact hLater

theorem grouped_map {β : Type} {keys : List String} {make : String → RpcService}
    {part : RpcService → List β} {entries : List (String × β)} (hNodup : keys.Nodup)
    (hKeys : ∀ e ∈ entries, e.1 ∈ keys) (hName : ∀ key, (make key).name = key)
    (hPart : ∀ key, part (make key) = (entries.filter (·.1 = key)).map (·.2)) :
    Grouped (keys.map make) part entries where
  parts s hService := by
    obtain ⟨key, -, rfl⟩ := List.mem_map.mp hService
    rw [hPart, hName]
  once := by
    have hGroup (key : String) :
        (part (make key)).map ((make key).name, ·) = entries.filter (·.1 = key) := by
      rw [hPart, hName, List.map_map]
      refine (List.map_congr_left fun e hEntry => ?_).trans (List.map_id _)
      have hKey : e.1 = key := by simpa using (List.mem_filter.mp hEntry).2
      rw [← hKey]
      rfl
    rw [List.flatMap_map]
    simp only [hGroup]
    exact flatMap_filter_perm hNodup hKeys

/-! ## The table of services -/

theorem map_name_rpcServices (bs : List Binding) :
    (rpcServices bs).map (·.name) = distinct (bs.filterMap Binding.rpcName?) := by
  rw [rpcServices, List.map_map]
  exact List.map_id _

theorem mem_names_of_mem_entries {β : Type} {view : Binding → List (String × β)}
    (hView : ∀ b, ∀ e ∈ view b, b.rpcName? = some e.1) {bs : List Binding} {e : String × β}
    (hEntry : e ∈ bs.flatMap view) : e.1 ∈ distinct (bs.filterMap Binding.rpcName?) := by
  obtain ⟨b, hBinding, hEntry⟩ := List.mem_flatMap.mp hEntry
  rw [mem_distinct, List.mem_filterMap]
  exact ⟨b, hBinding, hView b e hEntry⟩

theorem grouped_methods (bs : List Binding) :
    Grouped (rpcServices bs) (·.methods) (bs.flatMap Binding.methodEntries) := by
  refine grouped_map (nodup_distinct _) ?_ (fun _ => rfl) fun key => ?_
  · intro e
    refine mem_names_of_mem_entries fun b e hEntry => ?_
    cases b with
    | rpcMethods service methods =>
      obtain ⟨m, -, rfl⟩ := List.mem_map.mp hEntry
      rfl
    | _ => cases hEntry
  · rw [List.filter_flatMap, List.map_flatMap]
    refine List.flatMap_congr fun b _ => ?_
    cases b with
    | rpcMethods service methods =>
      by_cases hSame : service = key <;>
        simp [Binding.rpcMethodsOf, Binding.methodEntries, List.filter_map, Function.comp_def,
          hSame]
    | _ => rfl

theorem grouped_handlers (bs : List Binding) :
    Grouped (rpcServices bs) (·.handlers) (bs.flatMap Binding.handlerEntries) := by
  refine grouped_map (nodup_distinct _) ?_ (fun _ => rfl) fun key => ?_
  · intro e
    refine mem_names_of_mem_entries fun b e hEntry => ?_
    cases b with
    | rpcHandler h =>
      obtain rfl := List.mem_singleton.mp hEntry
      rfl
    | _ => cases hEntry
  · rw [List.filter_flatMap, List.map_flatMap]
    refine List.flatMap_congr fun b _ => ?_
    cases b with
    | rpcHandler h =>
      by_cases hSame : h.service = key <;>
        simp [Binding.rpcHandlersOf, Binding.handlerEntries, hSame]
    | _ => rfl

/-! ## One binding after the other -/

/-- Adds to the first service of a name, or to a new one behind all others. -/
def enter (name : String) (methods : List RpcMethod) (handlers : List RpcHandler) :
    List RpcService → List RpcService
  | [] => [⟨name, methods, handlers⟩]
  | s :: table =>
    if s.name = name then ⟨name, s.methods ++ methods, s.handlers ++ handlers⟩ :: table
    else s :: enter name methods handlers table

def enroll (table : List RpcService) : Binding → List RpcService
  | .rpcMethods name methods => enter name methods [] table
  | .rpcHandler h => enter h.service [] [h] table
  | _ => table

section Enter

variable {name : String} {methods : List RpcMethod} {handlers : List RpcHandler}
  {make make' : String → RpcService} (hName : ∀ key, (make key).name = key) {keys : List String}

include hName

theorem enter_of_not_mem (hNew : name ∉ keys) :
    enter name methods handlers (keys.map make) = keys.map make ++ [⟨name, methods, handlers⟩] := by
  induction keys with
  | nil => rfl
  | cons key keys ih =>
    obtain ⟨hFirst, hRest⟩ := not_or.mp (mt List.mem_cons.mpr hNew)
    rw [List.map_cons, enter, hName, if_neg (Ne.symm hFirst), ih hRest, List.cons_append]

theorem enter_of_mem (hNodup : keys.Nodup) (hMem : name ∈ keys)
    (hJoined : make' name =
      ⟨name, (make name).methods ++ methods, (make name).handlers ++ handlers⟩)
    (hOther : ∀ key, key ≠ name → make' key = make key) :
    enter name methods handlers (keys.map make) = keys.map make' := by
  induction keys with
  | nil => cases hMem
  | cons key keys ih =>
    obtain ⟨hNew, hRest⟩ := List.nodup_cons.mp hNodup
    rw [List.map_cons, List.map_cons, enter, hName]
    by_cases hSame : key = name
    · subst hSame
      rw [if_pos rfl, hJoined]
      refine congrArg (_ :: ·) (List.map_congr_left fun other hLater => ?_)
      refine (hOther other ?_).symm
      rintro rfl
      exact hNew hLater
    · have hLater : name ∈ keys := (List.mem_cons.mp hMem).resolve_left (Ne.symm hSame)
      rw [if_neg hSame, hOther key hSame, ih hRest hLater]

end Enter

/-- The service of a name with all that the bindings give it. -/
def serviceOf (bs : List Binding) (name : String) : RpcService :=
  ⟨name, bs.flatMap (Binding.rpcMethodsOf name), bs.flatMap (Binding.rpcHandlersOf name)⟩

theorem serviceOf_concat (bs : List Binding) (b : Binding) (name : String) :
    serviceOf (bs ++ [b]) name = ⟨name, (serviceOf bs name).methods ++ b.rpcMethodsOf name,
      (serviceOf bs name).handlers ++ b.rpcHandlersOf name⟩ := by
  simp [serviceOf]

theorem rpcMethodsOf_eq_nil {b : Binding} {name : String} (hName : b.rpcName? ≠ some name) :
    b.rpcMethodsOf name = [] := by
  cases b with
  | rpcMethods service methods => exact if_neg fun hSame => hName (congrArg some hSame)
  | _ => rfl

theorem rpcHandlersOf_eq_nil {b : Binding} {name : String} (hName : b.rpcName? ≠ some name) :
    b.rpcHandlersOf name = [] := by
  cases b with
  | rpcHandler h => exact if_neg fun hSame => hName (congrArg some hSame)
  | _ => rfl

theorem serviceOf_eq_empty {bs : List Binding} {name : String}
    (hNew : name ∉ bs.filterMap Binding.rpcName?) : serviceOf bs name = ⟨name, [], []⟩ := by
  have hApart : ∀ b ∈ bs, b.rpcName? ≠ some name := fun b hBinding hName =>
    hNew (List.mem_filterMap.mpr ⟨b, hBinding, hName⟩)
  have hMethods : bs.flatMap (Binding.rpcMethodsOf name) = [] :=
    List.flatMap_eq_nil_iff.mpr fun b hBinding => rpcMethodsOf_eq_nil (hApart b hBinding)
  have hHandlers : bs.flatMap (Binding.rpcHandlersOf name) = [] :=
    List.flatMap_eq_nil_iff.mpr fun b hBinding => rpcHandlersOf_eq_nil (hApart b hBinding)
  rw [serviceOf, hMethods, hHandlers]

theorem serviceOf_concat_of_ne {bs : List Binding} {b : Binding} {name : String}
    (hName : b.rpcName? ≠ some name) : serviceOf (bs ++ [b]) name = serviceOf bs name := by
  rw [serviceOf_concat, rpcMethodsOf_eq_nil hName, rpcHandlersOf_eq_nil hName, List.append_nil,
    List.append_nil]
  rfl

theorem rpcServices_concat_of_name {b : Binding} {name : String} (bs : List Binding)
    (hName : b.rpcName? = some name) :
    rpcServices (bs ++ [b]) =
      enter name (b.rpcMethodsOf name) (b.rpcHandlersOf name) (rpcServices bs) := by
  have hNames : (bs ++ [b]).filterMap Binding.rpcName? =
      bs.filterMap Binding.rpcName? ++ [name] := by
    simp [hName]
  have hOther : ∀ key, key ≠ name → serviceOf (bs ++ [b]) key = serviceOf bs key := by
    intro key hKey
    refine serviceOf_concat_of_ne fun hSame => hKey ?_
    exact Option.some.inj (hSame.symm.trans hName)
  change (distinct _).map (serviceOf (bs ++ [b])) = enter _ _ _ ((distinct _).map (serviceOf bs))
  rw [hNames, distinct_concat]
  split
  · rename_i hMem
    exact (enter_of_mem (fun _ => rfl) (nodup_distinct _) (mem_distinct.mpr hMem)
      (serviceOf_concat bs b name) hOther).symm
  · rename_i hNew
    have hOld : (distinct (bs.filterMap Binding.rpcName?)).map (serviceOf (bs ++ [b])) =
        (distinct (bs.filterMap Binding.rpcName?)).map (serviceOf bs) := by
      refine List.map_congr_left fun key hKey => hOther key ?_
      rintro rfl
      exact hNew (mem_distinct.mp hKey)
    rw [enter_of_not_mem (fun _ => rfl) (mt mem_distinct.mp hNew), List.map_append, hOld,
      List.map_singleton, serviceOf_concat, serviceOf_eq_empty hNew, List.nil_append,
      List.nil_append]

theorem rpcServices_concat_of_none {b : Binding} (bs : List Binding) (hName : b.rpcName? = none) :
    rpcServices (bs ++ [b]) = rpcServices bs := by
  have hNames : (bs ++ [b]).filterMap Binding.rpcName? = bs.filterMap Binding.rpcName? := by
    simp [hName]
  change (distinct _).map (serviceOf (bs ++ [b])) = (distinct _).map (serviceOf bs)
  rw [hNames]
  refine List.map_congr_left fun key _ => serviceOf_concat_of_ne ?_
  simp [hName]

/-- What one more binding does. -/
theorem rpcServices_concat (bs : List Binding) (b : Binding) :
    rpcServices (bs ++ [b]) = enroll (rpcServices bs) b := by
  cases b with
  | rpcMethods service methods =>
    rw [rpcServices_concat_of_name bs rfl, Binding.rpcMethodsOf, if_pos rfl]
    rfl
  | rpcHandler h =>
    rw [rpcServices_concat_of_name bs rfl, Binding.rpcHandlersOf, if_pos rfl]
    rfl
  | _ => exact rpcServices_concat_of_none bs rfl

theorem rpcServices_eq_foldl (bs : List Binding) : rpcServices bs = bs.foldl enroll [] := by
  induction bs using List.reverseRecOn with
  | nil => rfl
  | append_singleton bs b ih => rw [rpcServices_concat, ih, List.foldl_concat]

/-! ## Built services -/

/-- The remote services of a program that was built. -/
theorem rpc_of_build {p : Surface.Program} {b : Built} (hBuild : build p = .ok b) :
    (b.service.rpc.map (·.name)).Nodup ∧
    b.service.rpc.map (·.name) = (p.items.filterMap (·.rpcName?)).eraseDups ∧
    (∃ methods,
      (p.items.flatMap (·.rpcMethods)).mapM (lowerEntry lowerRpcMethod) = .ok methods ∧
        Grouped b.service.rpc (·.methods) methods) ∧
    (∃ handlers,
      (p.items.flatMap (·.rpcHandlers)).mapM (lowerEntry lowerRpcHandler) = .ok handlers ∧
        Grouped b.service.rpc (·.handlers) handlers) ∧
    ∃ bs, bindings p.items = .ok bs ∧ b.service.rpc = bs.foldl enroll [] := by
  obtain ⟨d, bs, -, hBindings, rfl⟩ := build_eq_ok.mp hBuild
  have hNames : bs.filterMap Binding.rpcName? = p.items.filterMap (·.rpcName?) := by
    rw [List.filterMap_eq_flatMap_toList, List.filterMap_eq_flatMap_toList]
    exact flatMap_bindings (fun hLower => (rpcLowered_lowerBinding hLower).name) hBindings
  refine ⟨?_, ?_, ⟨_, ?_, grouped_methods bs⟩, ⟨_, ?_, grouped_handlers bs⟩, bs, hBindings,
    rpcServices_eq_foldl bs⟩
  · exact map_name_rpcServices bs ▸ nodup_distinct _
  · rw [← hNames, ← distinct_eq_eraseDups]
    exact map_name_rpcServices bs
  · exact mapM_bindings (fun hLower => (rpcLowered_lowerBinding hLower).methods) hBindings
  · exact mapM_bindings (fun hLower => (rpcLowered_lowerBinding hLower).handlers) hBindings

/-- A service that a handler names first and that is declared in two places, around another one. -/
def market : Surface.Program where
  items := [
    .rpcHandler ⟨"Stock", "Count", [], none, .unary, none, [], []⟩,
    .rpcService ⟨"Orders", [⟨"Place", none, some .int, .unary⟩]⟩,
    .rpcService ⟨"Stock",
      [⟨"Count", none, some .int, .unary⟩, ⟨"Watch", none, none, .serverStream⟩]⟩,
    .rpcHandler ⟨"Orders", "Cancel", [], none, .unary, none, [], []⟩,
    .rpcService ⟨"Stock", [⟨"Count", some .string, none, .unary⟩]⟩,
    .rpcHandler ⟨"Stock", "Watch", [], none, .serverStream, none, [], []⟩]

theorem rpc_of_build_market :
    ∃ b, build market = .ok b ∧
      b.service.rpc.map (fun s => (s.name, s.methods.map (·.name), s.handlers.map (·.method))) =
        [("Stock", ["Count", "Watch", "Count"], ["Count", "Watch"]),
          ("Orders", ["Place"], ["Cancel"])] ∧
      (b.service.rpc.map (·.name)).Nodup ∧
      ∃ bs, bindings market.items = .ok bs ∧ b.service.rpc = bs.foldl enroll [] := by
  obtain ⟨b, hBuild⟩ : ∃ b, build market = .ok b := ⟨_, rfl⟩
  refine ⟨b, hBuild, ?_, (rpc_of_build hBuild).1, (rpc_of_build hBuild).2.2.2.2⟩
  cases hBuild
  rfl

end ServiceCompiler.Build
