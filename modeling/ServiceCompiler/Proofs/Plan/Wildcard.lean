import Mathlib.Data.List.Forall2
import ServiceCompiler.Proofs.Plan.Selection

/-! # Variables that bind nothing

The variable `_` asks for nothing and binds nothing, like a wildcard. Turning some of these
variables into wildcards (`Blanked`) leaves every arm as it is, but a case without guard that becomes
a wildcard may be moved behind all others. Main statement: what the plan takes stays the same unless
a case that was hidden behind such a `_` takes the value, and then that case is taken instead. -/

namespace ServiceCompiler.Plan

open ServiceCompiler.Core (Pattern PatternField)

/-! ## Blanks in patterns -/

mutual

/-- The second pattern is the first with some of its variables `_` turned into wildcards. -/
inductive Blanked : Pattern → Pattern → Prop
  | same (p : Pattern) : Blanked p p
  | blank : Blanked (.variable "_") .wildcard
  | object {fs gs : List PatternField} (h : BlankedFields fs gs) : Blanked (.object fs) (.object gs)
  | array {ps qs : List Pattern} (rest : Option String) (h : BlankedElements ps qs) :
      Blanked (.array ps rest) (.array qs rest)

inductive BlankedFields : List PatternField → List PatternField → Prop
  | nil : BlankedFields [] []
  | binder (key : String) {fs gs : List PatternField} (h : BlankedFields fs gs) :
      BlankedFields (⟨key, none⟩ :: fs) (⟨key, none⟩ :: gs)
  | field (key : String) {p q : Pattern} {fs gs : List PatternField} (hInner : Blanked p q)
      (h : BlankedFields fs gs) : BlankedFields (⟨key, some p⟩ :: fs) (⟨key, some q⟩ :: gs)

inductive BlankedElements : List Pattern → List Pattern → Prop
  | nil : BlankedElements [] []
  | element {p q : Pattern} {ps qs : List Pattern} (hFirst : Blanked p q)
      (h : BlankedElements ps qs) : BlankedElements (p :: ps) (q :: qs)

end

theorem Blanked.eq_wildcard {q : Pattern} (h : Blanked .wildcard q) : q = .wildcard := by
  cases h
  rfl

theorem Blanked.wildcard_cases {p : Pattern} (h : Blanked p .wildcard) :
    p = .wildcard ∨ p = .variable "_" := by
  cases h with
  | same => exact .inl rfl
  | blank => exact .inr rfl

theorem BlankedElements.length_eq {ps qs : List Pattern} (h : BlankedElements ps qs) :
    ps.length = qs.length := by
  induction ps generalizing qs with
  | nil => cases h; rfl
  | cons p ps ih =>
    cases h with
    | element _ h => exact congrArg Nat.succ (ih h)

mutual

theorem patternChecks_blanked (path : List Access) {p q : Pattern} (h : Blanked p q) :
    patternChecks path p = patternChecks path q := by
  cases h with
  | same => rfl
  | blank => simp only [patternChecks]
  | object h => rw [patternChecks, patternChecks, fieldChecks_blanked path h]
  | array rest h =>
    rw [patternChecks, patternChecks, elementChecks_blanked path 0 h, h.length_eq]

theorem fieldChecks_blanked (path : List Access) {fs gs : List PatternField}
    (h : BlankedFields fs gs) : fieldChecks path fs = fieldChecks path gs := by
  cases h with
  | nil => rfl
  | binder key h => rw [fieldChecks, fieldChecks, fieldChecks_blanked path h]
  | field key hInner h =>
    rw [fieldChecks, fieldChecks, patternChecks_blanked _ hInner, fieldChecks_blanked path h]

theorem elementChecks_blanked (path : List Access) (position : Nat) {ps qs : List Pattern}
    (h : BlankedElements ps qs) :
    elementChecks path position ps = elementChecks path position qs := by
  cases h with
  | nil => rfl
  | element hFirst h =>
    rw [elementChecks, elementChecks, patternChecks_blanked _ hFirst,
      elementChecks_blanked path (position + 1) h]

end

mutual

theorem patternBounds_blanked (path : List Access) {p q : Pattern} (h : Blanked p q) :
    patternBounds path p = patternBounds path q := by
  cases h with
  | same => rfl
  | blank => rw [patternBounds, patternBounds, if_pos rfl]
  | object h => rw [patternBounds, patternBounds, fieldBounds_blanked path h]
  | array rest h =>
    rw [patternBounds_array, patternBounds_array, elementBounds_blanked path 0 h, h.length_eq]

theorem fieldBounds_blanked (path : List Access) {fs gs : List PatternField}
    (h : BlankedFields fs gs) : fieldBounds path fs = fieldBounds path gs := by
  cases h with
  | nil => rfl
  | binder key h => rw [fieldBounds, fieldBounds, fieldBounds_blanked path h]
  | field key hInner h =>
    rw [fieldBounds, fieldBounds, patternBounds_blanked _ hInner, fieldBounds_blanked path h]

theorem elementBounds_blanked (path : List Access) (position : Nat) {ps qs : List Pattern}
    (h : BlankedElements ps qs) :
    elementBounds path position ps = elementBounds path position qs := by
  cases h with
  | nil => rfl
  | element hFirst h =>
    rw [elementBounds, elementBounds, patternBounds_blanked _ hFirst,
      elementBounds_blanked path (position + 1) h]

end

/-! ## Blanks in cases -/

variable {α : Type}

/-- Blanks in the pattern of a case; guard and body are the same. -/
structure Case.Blanked (c d : Case α) : Prop where
  pattern : Plan.Blanked c.pattern d.pattern
  guard : c.guard = d.guard
  body : c.body = d.body

/-- A variable `_` without guard, which takes everything as well. -/
def Case.IsOpen (c : Case α) : Prop := c.pattern = .variable "_" ∧ c.guard = none

theorem Case.Blanked.arm_eq {c d : Case α} (h : c.Blanked d) : c.arm = d.arm := by
  rw [Case.arm, Case.arm, patternChecks_blanked [] h.pattern, patternBounds_blanked [] h.pattern,
    h.guard, h.body]

theorem Case.Blanked.isCatchAll {c d : Case α} (h : c.Blanked d) (hAll : c.isCatchAll = true) :
    d.isCatchAll = true := by
  obtain ⟨hPattern, hGuard⟩ := pattern_of_isCatchAll hAll
  have hSame : d.pattern = .wildcard := Blanked.eq_wildcard (hPattern ▸ h.pattern)
  simp [Case.isCatchAll, hSame, ← h.guard, hGuard]

/-- A case that newly takes everything was a `_`. -/
theorem Case.Blanked.isOpen {c d : Case α} (h : c.Blanked d) (hAll : d.isCatchAll = true)
    (hNew : c.isCatchAll = false) : c.IsOpen := by
  obtain ⟨hPattern, hGuard⟩ := pattern_of_isCatchAll hAll
  have hNone : c.guard = none := h.guard.trans hGuard
  rcases Blanked.wildcard_cases (hPattern ▸ h.pattern) with hWildcard | hBlank
  · simp [Case.isCatchAll, hWildcard, hNone] at hNew
  · exact ⟨hBlank, hNone⟩

theorem map_arm_blanked {cs ds : List (Case α)} (h : List.Forall₂ Case.Blanked cs ds) :
    cs.map Case.arm = ds.map Case.arm := by
  induction h with
  | nil => rfl
  | cons hFirst _ ih => rw [List.map_cons, List.map_cons, hFirst.arm_eq, ih]

/-! ## Taking blanked cases -/

variable (eq : Literal → Json → Bool) (holds : α → List (String × Json) → Bool)

theorem captures_blanked {c d : Case α} (h : c.Blanked d) (v : Json) :
    c.captures eq holds v = d.captures eq holds v := by
  have hArm := captures_arm eq holds v c
  rw [h.arm_eq, captures_arm] at hArm
  exact (Option.some.inj hArm).symm

theorem captures_of_isOpen {c : Case α} (h : c.IsOpen) (v : Json) :
    c.captures eq holds v = some [] := by
  simp [Case.captures, h.1, h.2, matchPattern]

theorem run_cons_catchAll {c : Case α} (hAll : c.isCatchAll = true) (v : Json)
    (cs : List (Case α)) :
    (planMatch (c :: cs)).run eq holds v =
      some (((firstTaken eq holds v cs).map fun taken => (taken.1.arm, taken.2)).or
        (some (c.arm, []))) := by
  have hLast : defaultLast (c :: cs) = cs ++ [c] := by simp [defaultLast, hAll]
  rw [run_planMatch_eq, hLast, firstTaken_append]
  cases firstTaken eq holds v cs <;> simp [firstTaken, captures_of_isCatchAll eq holds hAll]

theorem run_cons {c : Case α} (hAll : c.isCatchAll = false) (v : Json) (cs : List (Case α)) :
    (planMatch (c :: cs)).run eq holds v =
      match c.captures eq holds v with
      | some captured => some (some (c.arm, captured))
      | none => (planMatch cs).run eq holds v := by
  have hFirst : defaultLast (c :: cs) = c :: defaultLast cs := by simp [defaultLast, hAll]
  rw [run_planMatch_eq, hFirst, run_planMatch_eq, firstTaken]
  cases c.captures eq holds v <;> rfl

/-- The case that takes the value from a `_` that has become a wildcard: no case in front of the `_`
takes it, and it is the first behind it that does. -/
def overtaking (v : Json) : List (Case α) → List (Case α) → Option (Case α × List (String × Json))
  | c :: cs, d :: ds =>
    if d.isCatchAll then if c.isCatchAll then none else firstTaken eq holds v cs
    else if (c.captures eq holds v).isSome then none else overtaking v cs ds
  | _, _ => none

theorem run_blanked_eq {cs ds : List (Case α)} (h : List.Forall₂ Case.Blanked cs ds) (v : Json) :
    (planMatch ds).run eq holds v =
      match overtaking eq holds v cs ds with
      | some taken => some (some (taken.1.arm, taken.2))
      | none => (planMatch cs).run eq holds v := by
  induction h with
  | nil => rfl
  | @cons c d cs ds hFirst hRest ih =>
    have hTaken : (firstTaken eq holds v ds).map (fun taken => (taken.1.arm, taken.2)) =
        (firstTaken eq holds v cs).map fun taken => (taken.1.arm, taken.2) := by
      have hArms := runArms_map_arm eq holds v ds
      rw [← map_arm_blanked hRest, runArms_map_arm] at hArms
      exact (Option.some.inj hArms).symm
    cases hNew : d.isCatchAll with
    | true =>
      cases hAll : c.isCatchAll with
      | true =>
        rw [run_cons_catchAll eq holds hNew, run_cons_catchAll eq holds hAll, hTaken, hFirst.arm_eq]
        simp [overtaking, hNew, hAll]
      | false =>
        -- blanking has made the case a default, which is only taken when no later case is
        have hOpen := hFirst.isOpen hNew hAll
        rw [run_cons_catchAll eq holds hNew, run_cons eq holds hAll, hTaken,
          captures_of_isOpen eq holds hOpen, hFirst.arm_eq]
        cases hBehind : firstTaken eq holds v cs <;> simp [overtaking, hNew, hAll, hBehind]
    | false =>
      -- a default stays one, so neither of the two is
      have hAll : c.isCatchAll = false := by
        cases hAll : c.isCatchAll with
        | true => rw [hFirst.isCatchAll hAll] at hNew; cases hNew
        | false => rfl
      rw [run_cons eq holds hNew, run_cons eq holds hAll, ← captures_blanked eq holds hFirst,
        hFirst.arm_eq]
      cases hCaptures : c.captures eq holds v with
      | some captured => simp [overtaking, hNew, hCaptures]
      | none => simp [overtaking, hNew, hCaptures, ih]

/-- What overtakes stands behind a `_` that the plan of the cases takes. -/
theorem exists_of_overtaking {cs ds : List (Case α)} (h : List.Forall₂ Case.Blanked cs ds)
    {v : Json} {taken : Case α × List (String × Json)}
    (hTaken : overtaking eq holds v cs ds = some taken) :
    ∃ front c back, cs = front ++ c :: back ∧ c.IsOpen ∧
      firstTaken eq holds v back = some taken ∧
      (planMatch cs).run eq holds v = some (some (c.arm, [])) := by
  induction h with
  | nil => cases hTaken
  | @cons c d cs ds hFirst hRest ih =>
    rw [overtaking] at hTaken
    split at hTaken
    · rename_i hNew
      split at hTaken
      · cases hTaken
      · rename_i hAll
        rw [Bool.not_eq_true] at hAll
        -- the case that became a default, and would have been taken where it stood
        have hOpen := hFirst.isOpen hNew hAll
        refine ⟨[], c, cs, rfl, hOpen, hTaken, ?_⟩
        rw [run_cons eq holds hAll, captures_of_isOpen eq holds hOpen]
    · rename_i hNew
      split at hTaken
      · cases hTaken
      · rename_i hCaptures
        have hAll : c.isCatchAll = false := by
          rw [← Bool.not_eq_true]
          exact fun hAll => hNew (hFirst.isCatchAll hAll)
        obtain ⟨front, b, back, rfl, hOpen, hBehind, hRun⟩ := ih hTaken
        refine ⟨c :: front, b, back, rfl, hOpen, hBehind, ?_⟩
        rw [run_cons eq holds hAll, Option.not_isSome_iff_eq_none.mp hCaptures, hRun]

/-- Variables `_` of a match, at the top of a case or inside of a pattern, are turned into wildcards.
On every value the plan takes the same case with the same bindings as before, unless a `_` without
guard is overtaken: then the plan took that `_` and bound nothing, and now takes a case behind it.
Nothing is overtaken where only the last case can be a `_` without guard. -/
theorem run_blanked {cs ds : List (Case α)} (hBlanked : List.Forall₂ Case.Blanked cs ds)
    (v : Json) :
    (overtaking eq holds v cs ds = none →
        (planMatch ds).run eq holds v = (planMatch cs).run eq holds v) ∧
      (∀ taken, overtaking eq holds v cs ds = some taken →
        (planMatch ds).run eq holds v = some (some (taken.1.arm, taken.2)) ∧
          ∃ front c back, cs = front ++ c :: back ∧ c.IsOpen ∧
            firstTaken eq holds v back = some taken ∧
            (planMatch cs).run eq holds v = some (some (c.arm, []))) ∧
      ((∀ c ∈ cs.dropLast, ¬ c.IsOpen) → overtaking eq holds v cs ds = none) := by
  have hRun := run_blanked_eq eq holds hBlanked v
  refine ⟨fun hNone => ?_, fun taken hTaken => ?_, fun hLast => ?_⟩
  · rw [hRun, hNone]
  · refine ⟨?_, exists_of_overtaking eq holds hBlanked hTaken⟩
    rw [hRun, hTaken]
  · cases hTaken : overtaking eq holds v cs ds with
    | none => rfl
    | some taken =>
      obtain ⟨front, c, back, rfl, hOpen, hBehind, -⟩ := exists_of_overtaking eq holds hBlanked hTaken
      have hMore : back ≠ [] := by
        rintro rfl
        cases hBehind
      have hMem : c ∈ (front ++ c :: back).dropLast := by
        rw [List.dropLast_append_of_ne_nil (List.cons_ne_nil c back),
          List.dropLast_cons_of_ne_nil hMore]
        exact List.mem_append_right _ List.mem_cons_self
      exact absurd hOpen (hLast c hMem)

/-- A `_` inside of a pattern, one with a guard, and one without that stands in front of a text. -/
def luggage : List (Case String) :=
  [⟨.array [.variable "_", .variable "tag"] none, none, "tagged"⟩,
    ⟨.variable "_", some "never", "refused"⟩, ⟨.variable "_", none, "kept"⟩,
    ⟨.literal (.string "lost"), none, "searched"⟩]

def luggageBlanked : List (Case String) :=
  [⟨.array [.wildcard, .variable "tag"] none, none, "tagged"⟩, ⟨.wildcard, some "never", "refused"⟩,
    ⟨.wildcard, none, "kept"⟩, ⟨.literal (.string "lost"), none, "searched"⟩]

theorem blanked_luggage : List.Forall₂ Case.Blanked luggage luggageBlanked :=
  .cons ⟨.array none (.element .blank (.element (.same _) .nil)), rfl, rfl⟩
    (.cons ⟨.blank, rfl, rfl⟩ (.cons ⟨.blank, rfl, rfl⟩ (.cons ⟨.same _, rfl, rfl⟩ .nil)))

/-- The text is kept before, and searched once the `_` in front of it is a wildcard. -/
theorem searched_of_luggage :
    List.Forall₂ Case.Blanked luggage luggageBlanked ∧
      ((planMatch luggage).run isText (fun _ _ => false) (.string "lost")).map
          (·.map fun taken => (taken.1.body, taken.2.map (·.1))) = some (some ("kept", [])) ∧
      ((planMatch luggageBlanked).run isText (fun _ _ => false) (.string "lost")).map
          (·.map fun taken => (taken.1.body, taken.2.map (·.1))) = some (some ("searched", [])) :=
  ⟨blanked_luggage, rfl, rfl⟩

theorem run_blanked_luggage :
    (planMatch luggageBlanked).run isText (fun _ _ => false) (.array [.null, .string "A1"]) =
        (planMatch luggage).run isText (fun _ _ => false) (.array [.null, .string "A1"]) ∧
      (planMatch luggageBlanked).run isText (fun _ _ => false) (.string "lost") =
        some (some (⟨[.equals [] (.string "lost")], [], none, "searched"⟩, [])) ∧
      overtaking isText (fun _ _ => false) (.string "found") (luggage.take 3)
        (luggageBlanked.take 3) = none := by
  refine ⟨?_, ?_, ?_⟩
  · exact (run_blanked isText (fun _ _ => false) blanked_luggage _).1 rfl
  · exact ((run_blanked isText (fun _ _ => false) blanked_luggage (.string "lost")).2.1 _ rfl).1
  · have hTake : List.Forall₂ Case.Blanked (luggage.take 3) (luggageBlanked.take 3) :=
      List.forall₂_take 3 blanked_luggage
    refine (run_blanked isText (fun _ _ => false) hTake (.string "found")).2.2 fun c hc hOpen => ?_
    have hCases : c = luggage[0] ∨ c = luggage[1] := by
      simpa [luggage] using hc
    obtain ⟨hPattern, hGuard⟩ := hOpen
    rcases hCases with rfl | rfl
    · cases hPattern
    · cases hGuard

end ServiceCompiler.Plan
