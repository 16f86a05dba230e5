import ServiceCompiler.Plan.Rpc
import ServiceCompiler.Proofs.Distinct

/-! # Plans of remote methods

A method may be declared and handled any number of times. Main statement: the plans have the names
of the declared methods and then of those that are only handled, each once; a declared method is
planned by its first declaration, another one by its first handler, and whatever has a handler is
planned with the first one. -/

namespace ServiceCompiler.Plan

open ServiceCompiler.Core (RpcService RpcMethod RpcHandler)

/-! ## Names -/

theorem map_name_rpcPlans (s : RpcService) :
    (rpcPlans s).map (·.name) = distinct (s.methods.map (·.name) ++ s.handlers.map (·.method)) := by
  rw [rpcPlans, map_firsts, List.map_append, List.map_map, List.map_map]
  rfl

theorem nodup_rpcPlans (s : RpcService) : ((rpcPlans s).map (·.name)).Nodup := by
  rw [map_name_rpcPlans]
  exact nodup_distinct _

theorem names_rpcPlans (s : RpcService) :
    (rpcPlans s).map (·.name) = (s.methods.map (·.name)).eraseDups ++
      ((s.handlers.map (·.method)).filter (· ∉ s.methods.map (·.name))).eraseDups := by
  rw [map_name_rpcPlans, distinct_eq_eraseDups, List.eraseDups_append, List.removeAll]
  refine congrArg (_ ++ List.eraseDups ·) (List.filter_congr fun name _ => ?_)
  rw [List.elem_eq_contains, List.contains_eq_mem, decide_not]

/-! ## Declarations and handlers -/

/-- What a method is planned by: its first declaration, with its first handler if there is one, or
else its first handler. -/
inductive Planned (s : RpcService) : RpcPlan → Prop
  | declared (m : RpcMethod) (hFirst : s.methods.find? (·.name == m.name) = some m) :
      Planned s ⟨m.name, m.input, m.result, m.stream, s.handlers.find? (·.method == m.name)⟩
  | handled (h : RpcHandler) (hUndeclared : h.method ∉ s.methods.map (·.name))
      (hFirst : s.handlers.find? (·.method == h.method) = some h) :
      Planned s ⟨h.method, .any, h.result.getD .any, h.stream, some h⟩

theorem find?_methods_eq_none {s : RpcService} {name : String} :
    s.methods.find? (·.name == name) = none ↔ name ∉ s.methods.map (·.name) := by
  simp [List.find?_eq_none]

/-- The first plan of a name comes from the declarations if they have the name. -/
theorem find?_plans (s : RpcService) (name : String) :
    (s.methods.map (declaredPlan s) ++ s.handlers.map handlerPlan).find? (·.name = name) =
      ((s.methods.find? (·.name == name)).map (declaredPlan s)).or
        ((s.handlers.find? (·.method == name)).map handlerPlan) := by
  rw [List.find?_append, List.find?_map, List.find?_map]
  rfl

theorem mem_rpcPlans {s : RpcService} {p : RpcPlan} : p ∈ rpcPlans s ↔ Planned s p := by
  rw [rpcPlans, mem_firsts, find?_plans]
  constructor
  · intro hFound
    cases hDeclared : s.methods.find? (·.name == p.name) with
    | some m =>
      obtain rfl : declaredPlan s m = p := by simpa [hDeclared] using hFound
      exact .declared m hDeclared
    | none =>
      rw [hDeclared, Option.map_none, Option.none_or, Option.map_eq_some_iff] at hFound
      obtain ⟨h, hFirst, rfl⟩ := hFound
      exact .handled h (find?_methods_eq_none.mp hDeclared) hFirst
  · rintro (⟨m, hFirst⟩ | ⟨h, hUndeclared, hFirst⟩)
    · rw [hFirst]
      rfl
    · rw [find?_methods_eq_none.mpr hUndeclared, hFirst]
      rfl

theorem Planned.handler_eq {s : RpcService} {p : RpcPlan} (hPlanned : Planned s p) :
    p.handler = s.handlers.find? (·.method == p.name) := by
  cases hPlanned with
  | declared m hFirst => rfl
  | handled h hUndeclared hFirst => exact hFirst.symm

/-- A method that has a handler has a plan with its first handler. -/
theorem exists_plan_of_handler {s : RpcService} {h : RpcHandler} (hMem : h ∈ s.handlers) :
    ∃ p ∈ rpcPlans s, p.name = h.method ∧ p.handler.isSome := by
  have hName : h.method ∈ (rpcPlans s).map (·.name) := by
    rw [map_name_rpcPlans, mem_distinct]
    exact List.mem_append_right _ (List.mem_map_of_mem hMem)
  obtain ⟨p, hPlan, hSame⟩ := List.mem_map.mp hName
  refine ⟨p, hPlan, hSame, ?_⟩
  rw [(mem_rpcPlans.mp hPlan).handler_eq, List.find?_isSome]
  exact ⟨h, hMem, by simp [hSame]⟩

/-- The plans of a remote service. -/
theorem rpcPlans_planned (s : RpcService) :
    ((rpcPlans s).map (·.name)).Nodup ∧
    (rpcPlans s).map (·.name) = (s.methods.map (·.name)).eraseDups ++
      ((s.handlers.map (·.method)).filter (· ∉ s.methods.map (·.name))).eraseDups ∧
    (∀ p, p ∈ rpcPlans s ↔ Planned s p) ∧
    ∀ h ∈ s.handlers, ∃ p ∈ rpcPlans s, p.name = h.method ∧ p.handler.isSome :=
  ⟨nodup_rpcPlans s, names_rpcPlans s, fun _ => mem_rpcPlans, fun _ => exists_plan_of_handler⟩

end ServiceCompiler.Plan
