import Mathlib.Data.List.Basic
import ServiceCompiler.Plan.Body
import ServiceCompiler.Proofs.Core.Flow

/-! # Bodies and their flow

A body is written without the `break` at its end, and its variables are declared by whether they are
assigned again. Main statements: a body is what is left of it, or that and a `break`; and the
variables assigned again are read off the flow of the body. -/

namespace ServiceCompiler.Core.Stmt

def isBreak : Stmt → Bool
  | .breakLoop => true
  | _ => false

theorem eq_break {s : Stmt} (h : s.isBreak = true) : s = .breakLoop := by
  cases s <;> first | rfl | cases h

def endsByBreak (body : List Stmt) : Bool := body.getLast?.any isBreak

/-- A body has no `break` in front of its last statement. -/
def BreaksLast (body : List Stmt) : Prop := body.dropLast.countP isBreak = 0

theorem BreaksLast.countP_isBreak {body : List Stmt} (h : BreaksLast body) :
    body.countP isBreak = if endsByBreak body then 1 else 0 := by
  rcases List.eq_nil_or_concat' body with rfl | ⟨init, s, rfl⟩
  · rfl
  · rw [BreaksLast, List.dropLast_concat] at h
    rw [endsByBreak, List.getLast?_concat, List.countP_append, h]
    simp [List.countP_cons]

def reassigns? : Stmt → Option String
  | .reassign target _ => some target
  | _ => none

/-- A variable is assigned again in the flow of a body. -/
def Reassigns (body : List Stmt) (x : String) : Prop := ∃ value, .reassign x value ∈ bodyFlow body

theorem mem_filterMap_reassigns? {flow : List Stmt} {x : String} :
    x ∈ flow.filterMap reassigns? ↔ ∃ value, .reassign x value ∈ flow := by
  rw [List.mem_filterMap]
  constructor
  · rintro ⟨s, hs, hSome⟩
    cases s with
    | reassign target value =>
      obtain rfl : target = x := Option.some.inj hSome
      exact ⟨value, hs⟩
    | _ => cases hSome
  · rintro ⟨value, hs⟩
    exact ⟨_, hs, rfl⟩

end ServiceCompiler.Core.Stmt

namespace ServiceCompiler.Plan

open ServiceCompiler.Core (Stmt SwitchCase)

/-- Along a body, a `break` is left out where nothing is behind it. -/
@[elab_as_elim] theorem lastBreak_induct {P : List Stmt → Prop} (nil : P [])
    (last : P [.breakLoop])
    (step : ∀ s ss, (s = .breakLoop → ss = [] → False) → P ss → P (s :: ss)) (ss : List Stmt) :
    P ss := by
  induction ss with
  | nil => exact nil
  | cons s ss ih =>
    by_cases hBreak : s = .breakLoop ∧ ss = []
    · rw [hBreak.1, hBreak.2]
      exact last
    · exact step s ss (fun hs hss => hBreak ⟨hs, hss⟩) ih

theorem withoutLastBreak_concat_break (ss : List Stmt) :
    withoutLastBreak (ss ++ [Stmt.breakLoop]) = ss := by
  induction ss with
  | nil => rw [List.nil_append, withoutLastBreak]
  | cons s ss ih =>
    rw [List.cons_append, withoutLastBreak, ih]
    simp

theorem withoutLastBreak_concat {s : Stmt} (h : s.isBreak = false) (ss : List Stmt) :
    withoutLastBreak (ss ++ [s]) = ss ++ [s] := by
  induction ss with
  | nil =>
    rw [List.nil_append, withoutLastBreak, withoutLastBreak]
    rintro rfl
    cases h
  | cons t ss ih =>
    rw [List.cons_append, withoutLastBreak, ih]
    simp

/-- A body is one without a `break` at its end, or one with it. -/
theorem withoutLastBreak_cases (ss : List Stmt) :
    (Stmt.endsByBreak ss = false ∧ withoutLastBreak ss = ss) ∨
      (Stmt.endsByBreak ss = true ∧ ss = withoutLastBreak ss ++ [Stmt.breakLoop]) := by
  rcases List.eq_nil_or_concat' ss with rfl | ⟨init, s, rfl⟩
  · exact .inl ⟨rfl, rfl⟩
  · rw [Stmt.endsByBreak, List.getLast?_concat, Option.any_some]
    cases hBreak : s.isBreak with
    | true =>
      obtain rfl := Stmt.eq_break hBreak
      exact .inr ⟨rfl, by rw [withoutLastBreak_concat_break]⟩
    | false => exact .inl ⟨rfl, withoutLastBreak_concat hBreak init⟩

theorem mem_of_mem_withoutLastBreak {ss : List Stmt} {s : Stmt} (h : s ∈ withoutLastBreak ss) :
    s ∈ ss := by
  rcases withoutLastBreak_cases ss with ⟨-, hSame⟩ | ⟨-, hConcat⟩
  · exact hSame ▸ h
  · rw [hConcat]
    exact List.mem_append_left _ h

theorem countP_isBreak_withoutLastBreak {ss : List Stmt} (h : Stmt.BreaksLast ss) :
    (withoutLastBreak ss).countP Stmt.isBreak = 0 := by
  have hCount := h.countP_isBreak
  rcases withoutLastBreak_cases ss with ⟨hEnd, hSame⟩ | ⟨hEnd, hConcat⟩
  · rw [hSame, hCount, hEnd]
    rfl
  · rw [hEnd, hConcat, List.countP_append] at hCount
    exact Nat.succ.inj hCount

theorem countP_bodyFlow_withoutLastBreak {P : Stmt → Bool} (h : P .breakLoop = false)
    (ss : List Stmt) :
    (Stmt.bodyFlow (withoutLastBreak ss)).countP P = (Stmt.bodyFlow ss).countP P := by
  rcases withoutLastBreak_cases ss with ⟨-, hSame⟩ | ⟨-, hConcat⟩
  · rw [hSame]
  · conv_rhs => rw [hConcat]
    rw [Stmt.bodyFlow_eq, Stmt.bodyFlow_eq, List.flatMap_append, List.countP_append]
    simp [Stmt.flow, h]

/-! ## Variables -/

mutual

theorem reassignedIn_eq (s : Stmt) : reassignedIn s = s.flow.filterMap Stmt.reassigns? := by
  match s with
  | .cond condition thenBody elseBody =>
    rw [reassignedIn, Stmt.flow, reassigned_eq thenBody, reassigned_eq elseBody,
      List.filterMap_cons_none rfl, List.filterMap_append]
  | .forEach key value iterable body =>
    rw [reassignedIn, Stmt.flow, reassigned_eq body, List.filterMap_cons_none rfl]
  | .whileLoop condition body =>
    rw [reassignedIn, Stmt.flow, reassigned_eq body, List.filterMap_cons_none rfl]
  | .switch value cases otherwise =>
    rw [reassignedIn, Stmt.flow, reassignedInCases_eq cases, reassigned_eq otherwise,
      List.filterMap_cons_none rfl, List.filterMap_append]
  | .assign _ _ | .reassign _ _ | .ret _ | .expr _ | .validate _ | .breakLoop | .continueLoop =>
    rw [reassignedIn, Stmt.flow]
    rfl

theorem reassigned_eq (ss : List Stmt) :
    reassigned ss = (Stmt.bodyFlow ss).filterMap Stmt.reassigns? := by
  match ss with
  | [] => rfl
  | s :: ss =>
    rw [reassigned, Stmt.bodyFlow, reassignedIn_eq s, reassigned_eq ss, List.filterMap_append]

theorem reassignedInCases_eq (cs : List SwitchCase) :
    reassignedInCases cs = (Stmt.casesFlow cs).filterMap Stmt.reassigns? := by
  match cs with
  | [] => rfl
  | ⟨_, body⟩ :: cs =>
    rw [reassignedInCases, Stmt.casesFlow, reassigned_eq body, reassignedInCases_eq cs,
      List.filterMap_append]

end

theorem mem_reassigned {ss : List Stmt} {x : String} :
    x ∈ reassigned ss ↔ Stmt.Reassigns ss x := by
  rw [reassigned_eq, Stmt.mem_filterMap_reassigns?, Stmt.Reassigns]

end ServiceCompiler.Plan
