import ServiceCompiler.Proofs.Plan.Pattern

/-! # Matches and their plans

The cases of a match are tried in order; the first that has the form of the value and whose guard
holds is taken (`firstTaken`). A plan tries its arms and then its default (`MatchPlan.run`). Main
statement: the plan takes what the cases take once the first case that takes everything has been
moved behind all others. -/

namespace ServiceCompiler.Plan

open ServiceCompiler.Core (Pattern)

variable {α : Type} (eq : Literal → Json → Bool) (holds : α → List (String × Json) → Bool)

/-! ## Taking cases and arms -/

/-- What a case binds if it takes the value: the variables of its pattern, which its guard sees. -/
def Case.captures (v : Json) (c : Case α) : Option (List (String × Json)) := do
  let captured ← matchPattern eq c.pattern v
  if c.guard.all (holds · captured) then some captured else none

/-- The first case that takes the value, with what it binds. -/
def firstTaken (v : Json) : List (Case α) → Option (Case α × List (String × Json))
  | [] => none
  | c :: cs =>
    match c.captures eq holds v with
    | some captured => some (c, captured)
    | none => firstTaken v cs

/-- Makes the checks of an arm, then reads its variables, then asks its guard. The outer `none` is a
path that leads nowhere. -/
def Arm.captures (v : Json) (a : Arm α) : Option (Option (List (String × Json))) := do
  match ← carryOut eq v a.checks a.bounds with
  | some captured => some (if a.guard.all (holds · captured) then some captured else none)
  | none => some none

def runArms (v : Json) : List (Arm α) → Option (Option (Arm α × List (String × Json)))
  | [] => some none
  | a :: as => do
    match ← a.captures eq holds v with
    | some captured => some (some (a, captured))
    | none => runArms v as

/-- The arms in order, then the default, which asks for nothing. -/
def MatchPlan.run (v : Json) (plan : MatchPlan α) :
    Option (Option (Arm α × List (String × Json))) := do
  match ← runArms eq holds v plan.arms with
  | some taken => some (some taken)
  | none =>
    match plan.default with
    | some a => some (some (a, ← boundValues v a.bounds))
    | none => some none

theorem captures_arm (v : Json) (c : Case α) :
    c.arm.captures eq holds v = some (c.captures eq holds v) := by
  have hAt : resolve v [] = some v := rfl
  have hCarried : carryOut eq v c.arm.checks c.arm.bounds = some (matchPattern eq c.pattern v) := by
    have hPasses := passes_patternChecks eq hAt c.pattern
    cases hMatch : matchPattern eq c.pattern v with
    | none => simp [carryOut, Case.arm, hPasses, hMatch]
    | some captured =>
      simp [carryOut, Case.arm, hPasses, hMatch, boundValues_patternBounds eq hAt c.pattern hMatch]
  rw [Arm.captures, hCarried, Case.captures]
  cases matchPattern eq c.pattern v <;> rfl

theorem runArms_map_arm (v : Json) (cs : List (Case α)) :
    runArms eq holds v (cs.map Case.arm) =
      some ((firstTaken eq holds v cs).map fun taken => (taken.1.arm, taken.2)) := by
  induction cs with
  | nil => rfl
  | cons c cs ih =>
    cases hCaptures : c.captures eq holds v <;>
      simp [runArms, firstTaken, captures_arm, hCaptures, ih]

theorem firstTaken_append (v : Json) (cs ds : List (Case α)) :
    firstTaken eq holds v (cs ++ ds) =
      (firstTaken eq holds v cs).or (firstTaken eq holds v ds) := by
  induction cs with
  | nil => simp [firstTaken]
  | cons c cs ih => cases hCaptures : c.captures eq holds v <;> simp [firstTaken, hCaptures, ih]

/-! ## The default behind all other cases -/

/-- The cases with the first one that takes everything behind all others. -/
def defaultLast (cs : List (Case α)) : List (Case α) :=
  cs.eraseP Case.isCatchAll ++ (cs.find? Case.isCatchAll).toList

theorem planMatch_eq (cs : List (Case α)) :
    planMatch cs =
      ⟨(cs.eraseP Case.isCatchAll).map Case.arm, (cs.find? Case.isCatchAll).map Case.arm⟩ := by
  induction cs with
  | nil => rfl
  | cons c cs ih => cases hAll : c.isCatchAll <;> simp [planMatch, hAll, ih]

theorem defaultLast_perm (cs : List (Case α)) : (defaultLast cs).Perm cs := by
  induction cs with
  | nil => exact .nil
  | cons c cs ih =>
    cases hAll : c.isCatchAll with
    | true => simp [defaultLast, hAll, List.perm_append_singleton]
    | false => simpa [defaultLast, hAll] using ih

theorem defaultLast_of_last {cs : List (Case α)}
    (hLast : ∀ i, cs.findIdx? Case.isCatchAll = some i → cs.length = i + 1) :
    defaultLast cs = cs := by
  induction cs with
  | nil => rfl
  | cons c cs ih =>
    cases hAll : c.isCatchAll with
    | true =>
      have hNone : cs = [] := by simpa [List.findIdx?_cons, hAll] using hLast 0
      simp [defaultLast, hAll, hNone]
    | false =>
      have hTail : defaultLast cs = cs := by
        refine ih fun i hIndex => ?_
        simpa using hLast (i + 1) (by simp [List.findIdx?_cons, hAll, hIndex])
      simpa [defaultLast, hAll] using hTail

/-- A case that takes everything binds nothing. -/
theorem pattern_of_isCatchAll {c : Case α} (hAll : c.isCatchAll = true) :
    c.pattern = .wildcard ∧ c.guard = none := by
  unfold Case.isCatchAll at hAll
  split at hAll
  · exact ⟨‹_›, ‹_›⟩
  · cases hAll

theorem captures_of_isCatchAll {c : Case α} (hAll : c.isCatchAll = true) (v : Json) :
    c.captures eq holds v = some [] := by
  obtain ⟨hPattern, hGuard⟩ := pattern_of_isCatchAll hAll
  simp [Case.captures, hPattern, hGuard, matchPattern]

theorem run_planMatch_eq (v : Json) (cs : List (Case α)) :
    (planMatch cs).run eq holds v =
      some ((firstTaken eq holds v (defaultLast cs)).map fun taken => (taken.1.arm, taken.2)) := by
  rw [planMatch_eq, MatchPlan.run, runArms_map_arm, defaultLast, firstTaken_append]
  cases hTaken : firstTaken eq holds v (cs.eraseP Case.isCatchAll) with
  | some taken => simp
  | none =>
    cases hDefault : cs.find? Case.isCatchAll with
    | none => simp [firstTaken]
    | some c =>
      have hAll : c.isCatchAll = true := List.find?_some hDefault
      have hBounds : boundValues v c.arm.bounds = some [] := by
        simp [Case.arm, (pattern_of_isCatchAll hAll).1, patternBounds, boundValues]
      simp [firstTaken, captures_of_isCatchAll eq holds hAll, hBounds]

/-- Run on any value, the plan of a match takes the case, with the bindings, that is the first to be
taken once the first case that takes everything stands last, and no path leads nowhere. If that case
stood last already, this is the first in the order of the source. The arms with the default behind
them are the cases, each exactly once. -/
theorem run_planMatch (v : Json) (cs : List (Case α)) :
    (planMatch cs).run eq holds v =
        some ((firstTaken eq holds v (defaultLast cs)).map fun taken => (taken.1.arm, taken.2)) ∧
      ((∀ i, cs.findIdx? Case.isCatchAll = some i → cs.length = i + 1) →
        (planMatch cs).run eq holds v =
          some ((firstTaken eq holds v cs).map fun taken => (taken.1.arm, taken.2))) ∧
      (planMatch cs).arms ++ (planMatch cs).default.toList = (defaultLast cs).map Case.arm ∧
      (defaultLast cs).Perm cs := by
  have hRun := run_planMatch_eq eq holds v cs
  refine ⟨hRun, fun hLast => ?_, ?_, defaultLast_perm cs⟩
  · rwa [defaultLast_of_last hLast] at hRun
  · rw [planMatch_eq, defaultLast, List.map_append]
    cases cs.find? Case.isCatchAll <;> rfl

/-- A wildcard whose guard fails stands in front of a variable, and one without a guard stands last.
Guards are named by what they bind. -/
def grades : List (Case (List String)) :=
  [⟨.object [⟨"grade", some (.literal (.string "A"))⟩], none, ["best"]⟩,
    ⟨.wildcard, some ["y"], ["never"]⟩,
    ⟨.object [⟨"grade", some (.variable "x")⟩], some ["x"], ["graded"]⟩,
    ⟨.wildcard, none, ["ungraded"]⟩]

def isText : Literal → Json → Bool
  | .string s, .string t => s == t
  | _, _ => false

theorem run_planMatch_grades :
    (∀ i, grades.findIdx? Case.isCatchAll = some i → grades.length = i + 1) ∧
      (planMatch grades).run isText (fun g captured => captured.map (·.1) == g)
          (.object [("grade", .string "B")]) =
        some (some (⟨[.isObject [], .hasKey [] "grade"], [⟨"x", [.key "grade"]⟩], some ["x"],
          ["graded"]⟩, [("x", .string "B")])) := by
  have hLast : ∀ i, grades.findIdx? Case.isCatchAll = some i → grades.length = i + 1 := by
    rintro _ ⟨⟩
    rfl
  have hRun := (run_planMatch isText (fun g captured => captured.map (·.1) == g)
    (.object [("grade", .string "B")]) grades).2.1 hLast
  exact ⟨hLast, hRun⟩

end ServiceCompiler.Plan
