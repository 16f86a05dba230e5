import Mathlib.Logic.Function.Iterate
import Mathlib.Order.Bounds.Basic
import ServiceCompiler.Proofs.Core.Within
import ServiceCompiler.Proofs.Plan.Callable

/-! # The asynchronous names are the least closed set

A pass over the callables uses the names that it has added itself, so what a single pass adds
depends on the order of the callables. Main statement: the passes come to an end, and what they end
with is the least set of names that has the helpers and is closed under calling, which knows of no
order. What a body calls is looked for at any depth, but not in the default values of the parameters
of its lambdas. -/

namespace ServiceCompiler.Plan

open ServiceCompiler.Core (Expr Stmt Node Service LambdaBody Function Constant)

/-- An expression that has to run in an asynchronous function if the names are asynchronous. -/
inductive Suspending (names : Set String) : Expr → Prop
  | await (e : Expr) : Suspending names (.await e)
  | async (body : List Stmt) : Suspending names (.async body)
  | call {name : String} (hName : name ∈ names) (typeArgs : List Core.Ty) (args : List Expr) :
      Suspending names (.call name typeArgs args)
  | pipe {left right : Expr} {name : String} {args : List Expr}
      (hCall : pipeCall left right = .call name args) (hName : name ∈ names) :
      Suspending names (.pipe left right)

/-- A suspending expression lies in one of the nodes. -/
def SuspendsIn (names : Set String) (roots : List Node) : Prop :=
  ∃ e, (∃ n ∈ roots, (Node.expr e).Within n) ∧ Suspending names e

/-- The names hold what the service provides, and every function and lambda constant that suspends
if they are asynchronous. -/
structure AsyncClosed (s : Service) (names : Set String) : Prop where
  emit : s.events ≠ [] → "emit" ∈ names
  enqueue : s.queues ≠ [] → "enqueue" ∈ names
  broadcast : s.sockets ≠ [] → "broadcast" ∈ names
  function : ∀ f ∈ s.functions, SuspendsIn names (f.body.map .stmt) → f.name ∈ names
  constant : ∀ c ∈ s.constants, ∀ params body, c.value = .lambda params body →
    SuspendsIn names body.parts → c.name ∈ names

/-! ## Suspending expressions -/

variable {cs : List Callable} {names : List String} {N M : Set String} {e : Expr}

theorem Suspending.mono (h : Suspending N e) (hSubset : N ⊆ M) : Suspending M e := by
  cases h with
  | await e => exact .await e
  | async body => exact .async body
  | call hName typeArgs args => exact .call (hSubset hName) typeArgs args
  | pipe hCall hName => exact .pipe hCall (hSubset hName)

theorem SuspendsIn.mono {roots : List Node} (h : SuspendsIn N roots) (hSubset : N ⊆ M) :
    SuspendsIn M roots := by
  obtain ⟨e, hWithin, hSuspends⟩ := h
  exact ⟨e, hWithin, hSuspends.mono hSubset⟩

theorem suspends_iff : suspends names e = true ↔ Suspending {x | x ∈ names} e := by
  constructor
  · intro h
    cases e with
    | await e => exact .await e
    | async body => exact .async body
    | call name typeArgs args => exact .call (by simpa [suspends, calledName?] using h) typeArgs args
    | pipe left right =>
      cases hCall : pipeCall left right with
      | call name args => exact .pipe hCall (by simpa [suspends, calledName?, hCall] using h)
      | apply callee arg => simp [suspends, calledName?, hCall] at h
    | _ => cases h
  · intro h
    cases h with
    | await e => rfl
    | async body => rfl
    | call hName typeArgs args => simpa [suspends, calledName?] using hName
    | pipe hCall hName => simpa [suspends, calledName?, hCall] using hName

theorem bodySuspends_iff {body : List Stmt} :
    bodySuspends names body = true ↔ SuspendsIn {x | x ∈ names} (body.map .stmt) := by
  rw [bodySuspends, List.any_eq_true]
  constructor
  · rintro ⟨e, hMem, hSuspends⟩
    exact ⟨e, Stmt.mem_bodyNodes_iff.mp hMem, suspends_iff.mp hSuspends⟩
  · rintro ⟨e, hWithin, hSuspends⟩
    exact ⟨e, Stmt.mem_bodyNodes_iff.mpr hWithin, suspends_iff.mpr hSuspends⟩

theorem suspendsIn_lambdaStmts (body : LambdaBody) :
    SuspendsIn N ((lambdaStmts body).map .stmt) ↔ SuspendsIn N body.parts := by
  have hNodes : Stmt.bodyNodes (lambdaStmts body) = body.nodes := by
    cases body with
    | expr e => simp [lambdaStmts, Stmt.bodyNodes, Stmt.nodes, LambdaBody.nodes]
    | block ss => rw [lambdaStmts, LambdaBody.nodes]
  apply exists_congr
  intro e
  rw [← Stmt.mem_bodyNodes_iff, hNodes, LambdaBody.mem_nodes_iff]

/-! ## Passes -/

/-- What the callables of a service ask of a set of names. -/
def CallableClosed (cs : List Callable) (N : Set String) : Prop :=
  ∀ c ∈ cs, SuspendsIn N (c.body.map .stmt) → c.name ∈ N

theorem asyncPass_subset (hClosed : CallableClosed cs N) (hNames : ∀ x ∈ names, x ∈ N) :
    ∀ x ∈ asyncPass cs names, x ∈ N := by
  induction cs generalizing names with
  | nil => exact hNames
  | cons c cs ih =>
    obtain ⟨hFirst, hRest⟩ := List.forall_mem_cons.mp hClosed
    by_cases hAdd : (!names.contains c.name && bodySuspends names c.body) = true
    · rw [asyncPass, if_pos hAdd]
      have hSuspends := bodySuspends_iff.mp (Bool.and_eq_true_iff.mp hAdd).2
      apply ih hRest
      rw [List.forall_mem_append, List.forall_mem_singleton]
      exact ⟨hNames, hFirst (hSuspends.mono hNames)⟩
    · rw [asyncPass, if_neg hAdd]
      exact ih hRest hNames

theorem asyncLoop_subset (hClosed : CallableClosed cs N) (hNames : ∀ x ∈ names, x ∈ N) :
    ∀ x ∈ asyncLoop cs names, x ∈ N := by
  fun_induction asyncLoop cs names with
  | case1 names hSame => exact hNames
  | case2 names hMore ih => exact ih (asyncPass_subset hClosed hNames)

/-- The passes before the last one all add a name, and there are no more of them than callables
without a name at the start. -/
theorem asyncLoop_eq_iterate (cs : List Callable) (names : List String) :
    ∃ k ≤ pending cs names, asyncLoop cs names = (asyncPass cs)^[k] names ∧
      ∀ j < k, (asyncPass cs)^[j + 1] names ≠ (asyncPass cs)^[j] names := by
  fun_induction asyncLoop cs names with
  | case1 names hSame => exact ⟨0, Nat.zero_le _, rfl, fun j hj => absurd hj (Nat.not_lt_zero j)⟩
  | case2 names hMore ih =>
    obtain ⟨k, hBound, hLoop, hChanges⟩ := ih
    have hLess := pending_asyncPass_lt hMore
    refine ⟨k + 1, by omega, hLoop, ?_⟩
    intro j hj
    cases j with
    | zero => exact hMore
    | succ j => exact hChanges j (by omega)

/-! ## Services -/

theorem helperNames_subset_iff (s : Service) :
    (∀ x ∈ helperNames s, x ∈ N) ↔
      (s.events ≠ [] → "emit" ∈ N) ∧ (s.queues ≠ [] → "enqueue" ∈ N) ∧
        (s.sockets ≠ [] → "broadcast" ∈ N) := by
  have hHelper {α : Type} (xs : List α) (name : String) :
      (∀ x ∈ (if xs.isEmpty then [] else [name]), x ∈ N) ↔ (xs ≠ [] → name ∈ N) := by
    cases xs <;> simp
  rw [helperNames, List.forall_mem_append, List.forall_mem_append, hHelper, hHelper, hHelper,
    and_assoc]

theorem callableClosed_iff (s : Service) :
    CallableClosed (callables s) N ↔
      (∀ f ∈ s.functions, SuspendsIn N (f.body.map .stmt) → f.name ∈ N) ∧
        ∀ c ∈ s.constants, ∀ params body, c.value = .lambda params body →
          SuspendsIn N body.parts → c.name ∈ N := by
  constructor
  · intro h
    constructor
    · intro f hf hSuspends
      exact h ⟨f.name, f.params, f.body⟩ (List.mem_append_right _ (List.mem_map_of_mem hf)) hSuspends
    · intro c hc params body hValue hSuspends
      have hCallable : constantCallable? c = some ⟨c.name, params, lambdaStmts body⟩ := by
        rw [constantCallable?, hValue]
      refine h _ (List.mem_append_left _ (List.mem_filterMap.mpr ⟨c, hc, hCallable⟩)) ?_
      exact (suspendsIn_lambdaStmts body).mpr hSuspends
  · rintro ⟨hFunctions, hConstants⟩ c hc hSuspends
    -- a callable is a constant that holds a closure, or a function
    rcases List.mem_append.mp hc with hc | hc
    · obtain ⟨k, hk, hCallable⟩ := List.mem_filterMap.mp hc
      unfold constantCallable? at hCallable
      split at hCallable
      · rename_i params body hValue
        obtain rfl := Option.some.inj hCallable
        exact hConstants k hk params body hValue ((suspendsIn_lambdaStmts body).mp hSuspends)
      · cases hCallable
    · obtain ⟨f, hf, rfl⟩ := List.mem_map.mp hc
      exact hFunctions f hf hSuspends

theorem asyncClosed_iff {s : Service} :
    AsyncClosed s N ↔ (∀ x ∈ helperNames s, x ∈ N) ∧ CallableClosed (callables s) N := by
  rw [helperNames_subset_iff, callableClosed_iff]
  constructor
  · intro h
    exact ⟨⟨h.emit, h.enqueue, h.broadcast⟩, h.function, h.constant⟩
  · rintro ⟨⟨hEmit, hEnqueue, hBroadcast⟩, hFunctions, hConstants⟩
    exact ⟨hEmit, hEnqueue, hBroadcast, hFunctions, hConstants⟩

theorem isLeast_asyncNames (s : Service) :
    IsLeast {N | AsyncClosed s N} {x | x ∈ asyncNames s} := by
  constructor
  · refine asyncClosed_iff.mpr ⟨fun x hx => helperNames_subset_asyncNames s hx, ?_⟩
    intro c hc hSuspends
    exact closed_asyncNames s c hc (bodySuspends_iff.mpr hSuspends)
  · intro N hN x hx
    obtain ⟨hHelpers, hCallables⟩ := asyncClosed_iff.mp hN
    exact asyncLoop_subset hCallables hHelpers x hx

theorem asyncClosed_of_perm {s : Service} {fs : List Function} {cs : List Constant}
    (hFunctions : fs.Perm s.functions) (hConstants : cs.Perm s.constants) (N : Set String) :
    AsyncClosed { s with functions := fs, constants := cs } N ↔ AsyncClosed s N := by
  constructor
  · rintro ⟨hEmit, hEnqueue, hBroadcast, hFunction, hConstant⟩
    exact ⟨hEmit, hEnqueue, hBroadcast, fun f hf => hFunction f (hFunctions.mem_iff.mpr hf),
      fun c hc => hConstant c (hConstants.mem_iff.mpr hc)⟩
  · rintro ⟨hEmit, hEnqueue, hBroadcast, hFunction, hConstant⟩
    exact ⟨hEmit, hEnqueue, hBroadcast, fun f hf => hFunction f (hFunctions.mem_iff.mp hf),
      fun c hc => hConstant c (hConstants.mem_iff.mp hc)⟩

/-- The passes over the callables end with the first one that adds nothing, after no more passes
than there are callables. What has been collected then is the least closed set of names, and it is
the same in whatever order the functions and the constants are listed. -/
theorem asyncNames_least_fixed_point (s : Service) :
    (∃ k ≤ (callables s).length,
      asyncNames s = (asyncPass (callables s))^[k] (helperNames s) ∧
        asyncPass (callables s) (asyncNames s) = asyncNames s ∧
        ∀ j < k, (asyncPass (callables s))^[j + 1] (helperNames s) ≠
          (asyncPass (callables s))^[j] (helperNames s)) ∧
    IsLeast {N | AsyncClosed s N} {x | x ∈ asyncNames s} ∧
    ∀ fs cs, fs.Perm s.functions → cs.Perm s.constants →
      ∀ x, x ∈ asyncNames { s with functions := fs, constants := cs } ↔ x ∈ asyncNames s := by
  refine ⟨?_, isLeast_asyncNames s, ?_⟩
  · obtain ⟨k, hBound, hLoop, hChanges⟩ := asyncLoop_eq_iterate (callables s) (helperNames s)
    have hLength : pending (callables s) (helperNames s) ≤ (callables s).length :=
      List.countP_le_length
    exact ⟨k, by omega, hLoop, asyncPass_asyncLoop .., hChanges⟩
  · intro fs cs hFunctions hConstants
    have hOther := isLeast_asyncNames { s with functions := fs, constants := cs }
    simp only [asyncClosed_of_perm hFunctions hConstants] at hOther
    exact Set.ext_iff.mp (hOther.unique (isLeast_asyncNames s))

/-- `ping` and `pong` call each other, and `pong` pipes into a lambda that emits; `idle` and `rest`
call each other as well, but nothing that suspends. -/
def relay : Service :=
  { Service.empty "relay" with
    events := [⟨"tick", false, [], []⟩]
    functions :=
      [⟨"ping", [], [], none, [.ret (.call "pong" [] [])]⟩,
        ⟨"pong", [], [], none,
          [.cond (.var "x") [.expr (.pipe (.var "x") (.var "notify"))] [],
            .ret (.call "ping" [] [])]⟩,
        ⟨"idle", [], [], none, [.ret (.call "rest" [] [])]⟩,
        ⟨"rest", [], [], none, [.ret (.call "idle" [] [])]⟩]
    constants := [⟨"notify", none, .lambda [] (.expr (.call "emit" [] [.string "tick", .null]))⟩] }

theorem asyncNames_least_fixed_point_relay :
    asyncNames relay = ["emit", "notify", "pong", "ping"] ∧
      relay.functions.reverse.Perm relay.functions ∧
      ∀ x, x ∈ asyncNames { relay with functions := relay.functions.reverse } ↔
        x ∈ asyncNames relay := by
  have hPerm : relay.functions.reverse.Perm relay.functions := List.reverse_perm _
  refine ⟨by decide +kernel, hPerm, ?_⟩
  exact (asyncNames_least_fixed_point relay).2.2 _ _ hPerm (List.Perm.refl _)

/-- A function that returns a lambda, which awaits the default value of its parameter. -/
def deferring : Service :=
  { Service.empty "deferring" with
    functions :=
      [⟨"later", [], [], none,
        [.ret (.lambda [⟨"x", .any, false, some (.await (.call "load" [] [])), []⟩]
          (.expr (.var "x")))]⟩] }

/-- An await that lies in a body, but in the default value of a lambda parameter, does not make the
function asynchronous. -/
theorem asyncNames_deferring :
    (∃ f ∈ deferring.functions, ∃ s ∈ f.body, ∃ e,
      (Node.expr (.await e)).Inside (.stmt s) ∧ f.name ∉ asyncNames deferring) ∧
    asyncNames deferring = [] := by
  have hNames : asyncNames deferring = [] := by decide +kernel
  refine ⟨⟨_, List.mem_cons_self, _, List.mem_cons_self, .call "load" [] [], ?_, ?_⟩, hNames⟩
  · -- from the return to the lambda, its parameter and the default value
    exact .part List.mem_cons_self (.part List.mem_cons_self
      (.part (List.mem_cons_of_mem _ List.mem_cons_self) .here))
  · rw [hNames]
    exact List.not_mem_nil

end ServiceCompiler.Plan
