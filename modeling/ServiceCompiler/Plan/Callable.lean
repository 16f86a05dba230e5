import ServiceCompiler.Core.Nodes
import ServiceCompiler.Core.Service
import ServiceCompiler.Plan.Call

/-! # Callable names and what has to be asynchronous

Functions and constants that are lambdas can be called by name. One of them is asynchronous if its
body awaits, holds an async block or calls an asynchronous name: the least set of names with this
property, given the helpers that are asynchronous from the start. -/

namespace ServiceCompiler.Plan

open ServiceCompiler.Core (Expr Stmt Field Service LambdaBody)

structure Callable where
  name : String
  params : List Field
  body : List Stmt

/-- The statements of a lambda; one with a single expression returns it. -/
def lambdaStmts : LambdaBody → List Stmt
  | .expr e => [.ret e]
  | .block body => body

def constantCallable? (c : Core.Constant) : Option Callable :=
  match c.value with
  | .lambda params body => some ⟨c.name, params, lambdaStmts body⟩
  | _ => none

/-- The lambda constants, then the functions. -/
def callables (s : Service) : List Callable :=
  s.constants.filterMap constantCallable? ++ s.functions.map fun f => ⟨f.name, f.params, f.body⟩

def calledName? : Expr → Option String
  | .call name _ _ => some name
  | .pipe left right =>
    match pipeCall left right with
    | .call name _ => some name
    | .apply _ _ => none
  | _ => none

/-- Whether an expression itself, not one inside it, has to run in an asynchronous function. -/
def suspends (asyncNames : List String) : Expr → Bool
  | .await _ => true
  | .async _ => true
  | e =>
    match calledName? e with
    | some name => asyncNames.contains name
    | none => false

def exprSuspends (asyncNames : List String) (e : Expr) : Bool := e.nodes.any (suspends asyncNames)

def bodySuspends (asyncNames : List String) (body : List Stmt) : Bool :=
  (Stmt.bodyNodes body).any (suspends asyncNames)

/-- One pass over the callables. A name that is added counts at once for the callables behind it. -/
def asyncPass : List Callable → List String → List String
  | [], names => names
  | c :: cs, names =>
    if !names.contains c.name && bodySuspends names c.body then asyncPass cs (names ++ [c.name])
    else asyncPass cs names

/-- The number of callables that have none of the names. -/
def pending (cs : List Callable) (names : List String) : Nat :=
  cs.countP fun c => !names.contains c.name

section Passes

variable {cs : List Callable} {names more : List String}

theorem subset_asyncPass (cs : List Callable) (names : List String) :
    names ⊆ asyncPass cs names := by
  induction cs generalizing names with
  | nil => exact List.Subset.refl _
  | cons c cs ih =>
    rw [asyncPass]
    split
    · exact List.Subset.trans (List.subset_append_left ..) (ih _)
    · exact ih _

theorem asyncPass_adds (h : asyncPass cs names ≠ names) :
    ∃ c ∈ cs, c.name ∉ names ∧ c.name ∈ asyncPass cs names := by
  induction cs with
  | nil => exact absurd rfl h
  | cons c cs ih =>
    by_cases hAdd : (!names.contains c.name && bodySuspends names c.body) = true
    · rw [asyncPass, if_pos hAdd]
      have hNew : c.name ∉ names := by simpa using (Bool.and_eq_true_iff.mp hAdd).1
      exact ⟨c, List.mem_cons_self, hNew, subset_asyncPass cs _ (by simp)⟩
    · rw [asyncPass, if_neg hAdd] at h ⊢
      obtain ⟨d, hd, hNew, hAdded⟩ := ih h
      exact ⟨d, List.mem_cons_of_mem _ hd, hNew, hAdded⟩

theorem pending_mono (h : names ⊆ more) (cs : List Callable) :
    pending cs more ≤ pending cs names := by
  apply List.countP_mono_left
  intro c _ hMore
  simp only [Bool.not_eq_true', List.contains_eq_mem, decide_eq_false_iff_not] at hMore ⊢
  exact fun hName => hMore (h hName)

theorem pending_lt (h : names ⊆ more) {c : Callable} (hc : c ∈ cs) (hNew : c.name ∉ names)
    (hAdded : c.name ∈ more) : pending cs more < pending cs names := by
  obtain ⟨front, back, rfl⟩ := List.append_of_mem hc
  have hFront := pending_mono h front
  have hBack := pending_mono h back
  have hAfter : pending (front ++ c :: back) more = pending front more + pending back more := by
    simp [pending, List.countP_append, hAdded]
  have hBefore : pending (front ++ c :: back) names =
      pending front names + (pending back names + 1) := by
    simp [pending, List.countP_append, hNew]
  omega

/-- A pass that adds a name settles a callable. -/
theorem pending_asyncPass_lt (h : asyncPass cs names ≠ names) :
    pending cs (asyncPass cs names) < pending cs names := by
  obtain ⟨c, hc, hNew, hAdded⟩ := asyncPass_adds h
  exact pending_lt (subset_asyncPass cs names) hc hNew hAdded

end Passes

/-- Passes over the callables until one of them adds nothing. -/
def asyncLoop (cs : List Callable) (names : List String) : List String :=
  if asyncPass cs names = names then names else asyncLoop cs (asyncPass cs names)
termination_by pending cs names
decreasing_by exact pending_asyncPass_lt ‹_›

/-- The helpers that a service provides to its bodies; all of them are asynchronous. -/
def helperNames (s : Service) : List String :=
  (if s.events.isEmpty then [] else ["emit"]) ++ (if s.queues.isEmpty then [] else ["enqueue"]) ++
    (if s.sockets.isEmpty then [] else ["broadcast"])

def asyncNames (s : Service) : List String := asyncLoop (callables s) (helperNames s)

end ServiceCompiler.Plan
