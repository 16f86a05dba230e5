import Mathlib.Data.List.Basic
import ServiceCompiler.Plan.Callable

/-! # Asynchronous names are closed under calling

The passes that collect the asynchronous names of a service end where a pass adds no name. Main
statement: a callable whose body suspends has its name among them. -/

namespace ServiceCompiler.Plan

open ServiceCompiler.Core (Expr Stmt Service)

variable {cs : List Callable} {names : List String}

theorem not_mem_of_suspends {e : Expr} {name : String} (h : suspends names e = false)
    (hName : calledName? e = some name) : name ∉ names := by
  have hCalled : suspends names e = names.contains name := by
    unfold suspends
    split
    · cases hName
    · cases hName
    · rw [hName]
  rw [hCalled] at h
  simpa using h

theorem suspends_of_bodySuspends {body : List Stmt} (h : bodySuspends names body = false) :
    ∀ e ∈ Stmt.bodyNodes body, suspends names e = false := by
  simpa [bodySuspends] using h

/-- Every callable whose body suspends has one of the names. -/
def Closed (cs : List Callable) (names : List String) : Prop :=
  ∀ c ∈ cs, bodySuspends names c.body = true → c.name ∈ names

theorem closed_of_asyncPass (h : asyncPass cs names = names) : Closed cs names := by
  induction cs with
  | nil => exact fun c hc => nomatch hc
  | cons c cs ih =>
    by_cases hAdd : (!names.contains c.name && bodySuspends names c.body) = true
    · rw [asyncPass, if_pos hAdd] at h
      have hNew : c.name ∉ names := by simpa using (Bool.and_eq_true_iff.mp hAdd).1
      have hAdded : c.name ∈ asyncPass cs (names ++ [c.name]) := subset_asyncPass cs _ (by simp)
      rw [h] at hAdded
      exact absurd hAdded hNew
    · rw [asyncPass, if_neg hAdd] at h
      refine List.forall_mem_cons.mpr ⟨fun hSuspends => ?_, ih h⟩
      simpa [hSuspends] using hAdd

theorem subset_asyncLoop (cs : List Callable) (names : List String) :
    names ⊆ asyncLoop cs names := by
  fun_induction asyncLoop cs names with
  | case1 names _ => exact List.Subset.refl _
  | case2 names _ ih => exact List.Subset.trans (subset_asyncPass cs names) ih

theorem asyncPass_asyncLoop (cs : List Callable) (names : List String) :
    asyncPass cs (asyncLoop cs names) = asyncLoop cs names := by
  fun_induction asyncLoop cs names with
  | case1 names hSame => exact hSame
  | case2 names _ ih => exact ih

theorem closed_asyncNames (s : Service) : Closed (callables s) (asyncNames s) :=
  closed_of_asyncPass (asyncPass_asyncLoop ..)

theorem helperNames_subset_asyncNames (s : Service) : helperNames s ⊆ asyncNames s :=
  subset_asyncLoop ..

end ServiceCompiler.Plan
