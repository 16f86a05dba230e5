import ServiceCompiler.Json.Value
import ServiceCompiler.Plan.Match

/-! # Patterns and their plans

A pattern is matched against a value by recursion on the pattern (`matchPattern`). Its plan is a
flat list of checks and a list of variables, all with paths from the value as a whole, and is
carried out by following those paths (`carryOut`). Main statement: the two always give the same
answer, and no path leads nowhere on the way. -/

namespace ServiceCompiler.Plan

open ServiceCompiler.Core (Pattern PatternField)

/-! ## Carrying out a plan -/

/-- The part of a value that a step leads to, if there is one. -/
def Access.follow : Access → Json → Option Json
  | .key name, .object members => (Json.object members).get? name
  | .index position, .array items => items[position]?
  | .restFrom position, .array items =>
    if position ≤ items.length then some (.array (items.drop position)) else none
  | _, _ => none

def resolve (root : Json) (path : List Access) : Option Json :=
  path.foldlM (fun v step => step.follow v) root

theorem resolve_step {root v : Json} {path : List Access} (hAt : resolve root path = some v)
    (step : Access) : resolve root (path ++ [step]) = step.follow v := by
  simp only [resolve] at hAt
  simp [resolve, List.foldlM_append, hAt]

variable (eq : Literal → Json → Bool)

/-- The answer of a check, or `none` if its path leads nowhere or if it asks for a key of a value
that is not an object. -/
def Check.answer (root : Json) : Check → Option Bool
  | .isObject path => do
    match ← resolve root path with
    | .object _ => some true
    | _ => some false
  | .hasKey path key => do
    match ← resolve root path with
    | .object members => some (members.any (·.1 == key))
    | _ => none
  | .arrayLength path length exact => do
    match ← resolve root path with
    | .array items =>
      some (if exact then items.length == length else decide (length ≤ items.length))
    | _ => some false
  | .equals path value => do
    some (eq value (← resolve root path))

/-- Makes the checks from left to right, up to the first that fails. -/
def passes (root : Json) : List Check → Option Bool
  | [] => some true
  | c :: cs => do
    if ← c.answer eq root then passes root cs else some false

theorem passes_cons {root : Json} {c : Check} {b : Bool} (hAnswer : c.answer eq root = some b)
    (cs : List Check) :
    passes eq root (c :: cs) = if b then passes eq root cs else some false := by
  simp [passes, hAnswer]

theorem passes_append {root : Json} {cs : List Check} {b : Bool}
    (hPasses : passes eq root cs = some b) (ds : List Check) :
    passes eq root (cs ++ ds) = if b then passes eq root ds else some false := by
  induction cs with
  | nil =>
    obtain rfl : true = b := by simpa [passes] using hPasses
    rfl
  | cons c cs ih =>
    cases hAnswer : c.answer eq root with
    | none => simp [passes, hAnswer] at hPasses
    | some a =>
      rw [passes_cons eq hAnswer] at hPasses
      rw [List.cons_append, passes_cons eq hAnswer]
      cases a with
      | true => simpa using ih (by simpa using hPasses)
      | false =>
        obtain rfl : false = b := by simpa using hPasses
        rfl

/-- The values of the variables, or `none` if the path of one leads nowhere. -/
def boundValues (root : Json) (bounds : List Bound) : Option (List (String × Json)) :=
  bounds.mapM fun b => (resolve root b.path).map (b.name, ·)

/-- Makes the checks and, if all pass, reads the variables. The inner `none` is a value that the
plan turns down, the outer one a path that leads nowhere. -/
def carryOut (root : Json) (checks : List Check) (bounds : List Bound) :
    Option (Option (List (String × Json))) := do
  if ← passes eq root checks then some (← boundValues root bounds) else some none

/-! ## The meaning of a pattern -/

/-- What is left of an array is for the rest, and nothing may be left without one. -/
def matchRest : Option String → List Json → Option (List (String × Json))
  | some name, remaining => some [(name, .array remaining)]
  | none, [] => some []
  | none, _ :: _ => none

mutual

/-- The variables of a pattern with their values, if the value has the form of the pattern. -/
def matchPattern : Pattern → Json → Option (List (String × Json))
  | .wildcard, _ => some []
  | .variable name, v => some (if name = "_" then [] else [(name, v)])
  | .literal value, v => if eq value v then some [] else none
  | .object fields, .object members => matchFields fields (.object members)
  | .array elements rest, .array items => do
    let (captured, remaining) ← matchElements elements items
    let suffix ← matchRest rest remaining
    some (captured ++ suffix)
  | _, _ => none

def matchFields : List PatternField → Json → Option (List (String × Json))
  | [], _ => some []
  | ⟨key, none⟩ :: fs, v => do
    let part ← v.get? key
    let captured ← matchFields fs v
    some ((key, part) :: captured)
  | ⟨key, some p⟩ :: fs, v => do
    let part ← v.get? key
    let inner ← matchPattern p part
    let captured ← matchFields fs v
    some (inner ++ captured)

/-- Matches one element after the other and hands on the elements that are left. -/
def matchElements : List Pattern → List Json → Option (List (String × Json) × List Json)
  | [], items => some ([], items)
  | _ :: _, [] => none
  | p :: ps, v :: items => do
    let inner ← matchPattern p v
    let (captured, remaining) ← matchElements ps items
    some (inner ++ captured, remaining)

end

theorem matchElements_eq_some {elements : List Pattern} {items remaining : List Json}
    {captured : List (String × Json)}
    (hMatch : matchElements eq elements items = some (captured, remaining)) :
    elements.length ≤ items.length ∧ remaining = items.drop elements.length := by
  induction elements generalizing items captured with
  | nil =>
    simp only [matchElements, Option.some.injEq, Prod.mk.injEq] at hMatch
    exact ⟨Nat.zero_le _, hMatch.2.symm⟩
  | cons p ps ih =>
    cases items with
    | nil => simp [matchElements] at hMatch
    | cons v items =>
      simp only [matchElements, Option.bind_eq_bind, Option.bind_eq_some_iff, Option.some.injEq,
        Prod.mk.injEq, Prod.exists] at hMatch
      obtain ⟨_, _, _, _, hRest, _, rfl⟩ := hMatch
      obtain ⟨hLength, hDrop⟩ := ih hRest
      exact ⟨Nat.succ_le_succ hLength, hDrop⟩

/-! ## The checks decide the pattern -/

theorem any_key_eq_isSome_get? (members : List (String × Json)) (key : String) :
    members.any (·.1 == key) = ((Json.object members).get? key).isSome := by
  simp [Json.get?, List.isSome_find?]

theorem answer_hasKey {root : Json} {path : List Access} {members : List (String × Json)}
    (hAt : resolve root path = some (.object members)) (key : String) :
    (Check.hasKey path key).answer eq root = some ((Json.object members).get? key).isSome := by
  simp [Check.answer, hAt, any_key_eq_isSome_get?]

/-- Whether an array has as many elements as its pattern asks for. -/
def lengthFits (elements : List Pattern) (rest : Option String) (items : List Json) : Bool :=
  if rest.isNone then items.length == elements.length else decide (elements.length ≤ items.length)

theorem length_le_of_lengthFits {elements : List Pattern} {rest : Option String}
    {items : List Json} (hFits : lengthFits elements rest items = true) :
    elements.length ≤ items.length := by
  cases rest with
  | none =>
    have hSame : items.length = elements.length := by simpa [lengthFits] using hFits
    exact Nat.le_of_eq hSame.symm
  | some name => simpa [lengthFits] using hFits

theorem isSome_matchRest (rest : Option String) {elements : List Pattern} {items : List Json}
    (hLength : elements.length ≤ items.length) :
    (matchRest rest (items.drop elements.length)).isSome = lengthFits elements rest items := by
  cases rest with
  | some name => simp [matchRest, lengthFits, hLength]
  | none =>
    cases hDrop : items.drop elements.length with
    | nil =>
      have hSame : items.length = elements.length :=
        Nat.le_antisymm (List.drop_eq_nil_iff.mp hDrop) hLength
      simp [matchRest, lengthFits, hSame]
    | cons v vs =>
      have hMore : items.length ≠ elements.length := by
        intro hSame
        rw [List.drop_eq_nil_iff.mpr (Nat.le_of_eq hSame)] at hDrop
        cases hDrop
      simp [matchRest, lengthFits, hMore]

/-- The length may be looked at before the elements. -/
theorem isSome_matchPattern_array (elements : List Pattern) (rest : Option String)
    (items : List Json) :
    (matchPattern eq (.array elements rest) (.array items)).isSome =
      (lengthFits elements rest items && (matchElements eq elements items).isSome) := by
  cases hMatch : matchElements eq elements items with
  | none => simp [matchPattern, hMatch]
  | some found =>
    obtain ⟨captured, remaining⟩ := found
    obtain ⟨hLength, rfl⟩ := matchElements_eq_some eq hMatch
    rw [← isSome_matchRest rest hLength]
    cases hRest : matchRest rest (items.drop elements.length) <;>
      simp [matchPattern, hMatch, hRest]

theorem passes_arrayChecks {root : Json} {path : List Access} {items : List Json}
    (hAt : resolve root path = some (.array items)) (elements : List Pattern)
    (rest : Option String)
    (hElements : elements.length ≤ items.length →
      passes eq root (elementChecks path 0 elements) =
        some (matchElements eq elements items).isSome) :
    passes eq root (patternChecks path (.array elements rest)) =
      some (matchPattern eq (.array elements rest) (.array items)).isSome := by
  have hAnswer : (Check.arrayLength path elements.length rest.isNone).answer eq root =
      some (lengthFits elements rest items) := by
    simp [Check.answer, hAt, lengthFits]
  rw [patternChecks, passes_cons eq hAnswer, isSome_matchPattern_array]
  cases hFits : lengthFits elements rest items with
  | true => simpa using hElements (length_le_of_lengthFits hFits)
  | false => rfl

mutual

theorem passes_patternChecks {root v : Json} {path : List Access}
    (hAt : resolve root path = some v) (p : Pattern) :
    passes eq root (patternChecks path p) = some (matchPattern eq p v).isSome := by
  cases p with
  | wildcard => simp [patternChecks, passes, matchPattern]
  | «variable» name => simp [patternChecks, passes, matchPattern]
  | literal value =>
    have hAnswer : (Check.equals path value).answer eq root = some (eq value v) := by
      simp [Check.answer, hAt]
    rw [patternChecks, passes_cons eq hAnswer, matchPattern]
    cases eq value v <;> rfl
  | object fields =>
    cases v with
    | object members =>
      have hAnswer : (Check.isObject path).answer eq root = some true := by
        simp [Check.answer, hAt]
      rw [patternChecks, passes_cons eq hAnswer, matchPattern]
      exact passes_fieldChecks hAt fields
    | _ =>
      have hAnswer : (Check.isObject path).answer eq root = some false := by
        simp [Check.answer, hAt]
      rw [patternChecks, passes_cons eq hAnswer]
      rfl
  | array elements rest =>
    cases v with
    | array items =>
      refine passes_arrayChecks eq hAt elements rest fun hLength => ?_
      simpa using passes_elementChecks hAt 0 elements (by simpa using hLength)
    | _ =>
      have hAnswer : (Check.arrayLength path elements.length rest.isNone).answer eq root =
          some false := by
        simp [Check.answer, hAt]
      rw [patternChecks, passes_cons eq hAnswer]
      rfl

theorem passes_fieldChecks {root : Json} {path : List Access} {members : List (String × Json)}
    (hAt : resolve root path = some (.object members)) (fields : List PatternField) :
    passes eq root (fieldChecks path fields) =
      some (matchFields eq fields (.object members)).isSome := by
  match fields with
  | [] => simp [fieldChecks, passes, matchFields]
  | ⟨key, none⟩ :: fs =>
    rw [fieldChecks, passes_cons eq (answer_hasKey eq hAt key), passes_fieldChecks hAt fs]
    cases hPart : (Json.object members).get? key with
    | none => simp [matchFields, hPart]
    | some part => cases hFields : matchFields eq fs (.object members) <;>
        simp [matchFields, hPart, hFields]
  | ⟨key, some p⟩ :: fs =>
    rw [fieldChecks, List.cons_append, passes_cons eq (answer_hasKey eq hAt key)]
    cases hPart : (Json.object members).get? key with
    | none => simp [matchFields, hPart]
    | some part =>
      have hInner := passes_patternChecks ((resolve_step hAt (.key key)).trans hPart) p
      rw [passes_append eq hInner, passes_fieldChecks hAt fs]
      cases hMatch : matchPattern eq p part <;>
        cases hFields : matchFields eq fs (.object members) <;>
          simp [matchFields, hPart, hMatch, hFields]

theorem passes_elementChecks {root : Json} {path : List Access} {items : List Json}
    (hAt : resolve root path = some (.array items)) (position : Nat) (elements : List Pattern)
    (hLength : position + elements.length ≤ items.length) :
    passes eq root (elementChecks path position elements) =
      some (matchElements eq elements (items.drop position)).isSome := by
  match elements with
  | [] => simp [elementChecks, passes, matchElements]
  | p :: ps =>
    rw [List.length_cons] at hLength
    have hPosition : position < items.length := by omega
    have hPart : resolve root (path ++ [.index position]) = some items[position] :=
      (resolve_step hAt (.index position)).trans (List.getElem?_eq_getElem hPosition)
    have hRest := passes_elementChecks hAt (position + 1) ps (by omega)
    rw [elementChecks, passes_append eq (passes_patternChecks hPart p), hRest,
      List.drop_eq_getElem_cons hPosition]
    cases hMatch : matchPattern eq p items[position] <;>
      cases hElements : matchElements eq ps (items.drop (position + 1)) <;>
        simp [matchElements, hMatch, hElements]

end

/-! ## The variables have the values of the pattern -/

theorem boundValues_singleton {root v : Json} {path : List Access}
    (hAt : resolve root path = some v) (name : String) :
    boundValues root [⟨name, path⟩] = some [(name, v)] := by
  simp [boundValues, hAt]

theorem boundValues_append {root : Json} {bs cs : List Bound} {first second : List (String × Json)}
    (hFirst : boundValues root bs = some first) (hSecond : boundValues root cs = some second) :
    boundValues root (bs ++ cs) = some (first ++ second) := by
  unfold boundValues at hFirst hSecond ⊢
  simp [List.mapM_append, hFirst, hSecond]

theorem patternBounds_array (path : List Access) (elements : List Pattern) (rest : Option String) :
    patternBounds path (.array elements rest) =
      elementBounds path 0 elements ++
        (rest.map fun name => ⟨name, path ++ [.restFrom elements.length]⟩).toList := by
  cases rest <;> simp [patternBounds]

theorem boundValues_rest {root : Json} {path : List Access} {items : List Json} {position : Nat}
    (hAt : resolve root path = some (.array items)) (hLength : position ≤ items.length)
    {rest : Option String} {suffix : List (String × Json)}
    (hRest : matchRest rest (items.drop position) = some suffix) :
    boundValues root (rest.map fun name => ⟨name, path ++ [.restFrom position]⟩).toList =
      some suffix := by
  cases rest with
  | some name =>
    obtain rfl : [(name, Json.array (items.drop position))] = suffix := by
      simpa [matchRest] using hRest
    have hSuffix := resolve_step hAt (.restFrom position)
    rw [Access.follow, if_pos hLength] at hSuffix
    exact boundValues_singleton hSuffix name
  | none =>
    cases hDrop : items.drop position with
    | nil =>
      obtain rfl : [] = suffix := by simpa [matchRest, hDrop] using hRest
      rfl
    | cons v vs => simp [matchRest, hDrop] at hRest

mutual

theorem boundValues_patternBounds {root v : Json} {path : List Access}
    (hAt : resolve root path = some v) (p : Pattern) {captured : List (String × Json)}
    (hMatch : matchPattern eq p v = some captured) :
    boundValues root (patternBounds path p) = some captured := by
  cases p with
  | wildcard =>
    obtain rfl : [] = captured := by simpa [matchPattern] using hMatch
    rfl
  | «variable» name =>
    obtain rfl : (if name = "_" then [] else [(name, v)]) = captured := by
      simpa [matchPattern] using hMatch
    rw [patternBounds]
    split
    · rfl
    · exact boundValues_singleton hAt name
  | literal value =>
    obtain ⟨-, rfl⟩ : eq value v = true ∧ [] = captured := by simpa [matchPattern] using hMatch
    rfl
  | object fields =>
    cases v with
    | object members =>
      rw [matchPattern] at hMatch
      exact boundValues_fieldBounds hAt fields hMatch
    | _ => cases hMatch
  | array elements rest =>
    cases v with
    | array items =>
      simp only [matchPattern, Option.bind_eq_bind, Option.bind_eq_some_iff, Option.some.injEq,
        Prod.exists] at hMatch
      obtain ⟨inner, remaining, hElements, suffix, hRest, rfl⟩ := hMatch
      obtain ⟨hLength, rfl⟩ := matchElements_eq_some eq hElements
      rw [patternBounds_array]
      exact boundValues_append (boundValues_elementBounds hAt 0 elements hElements)
        (boundValues_rest hAt hLength hRest)
    | _ => cases hMatch

theorem boundValues_fieldBounds {root : Json} {path : List Access} {members : List (String × Json)}
    (hAt : resolve root path = some (.object members)) (fields : List PatternField)
    {captured : List (String × Json)}
    (hMatch : matchFields eq fields (.object members) = some captured) :
    boundValues root (fieldBounds path fields) = some captured := by
  match fields with
  | [] =>
    obtain rfl : [] = captured := by simpa [matchFields] using hMatch
    rfl
  | ⟨key, none⟩ :: fs =>
    simp only [matchFields, Option.bind_eq_bind, Option.bind_eq_some_iff,
      Option.some.injEq] at hMatch
    obtain ⟨part, hPart, later, hLater, rfl⟩ := hMatch
    have hKey := (resolve_step hAt (.key key)).trans hPart
    exact boundValues_append (boundValues_singleton hKey key)
      (boundValues_fieldBounds hAt fs hLater)
  | ⟨key, some p⟩ :: fs =>
    simp only [matchFields, Option.bind_eq_bind, Option.bind_eq_some_iff,
      Option.some.injEq] at hMatch
    obtain ⟨part, hPart, inner, hInner, later, hLater, rfl⟩ := hMatch
    have hKey := (resolve_step hAt (.key key)).trans hPart
    rw [fieldBounds]
    exact boundValues_append (boundValues_patternBounds hKey p hInner)
      (boundValues_fieldBounds hAt fs hLater)

theorem boundValues_elementBounds {root : Json} {path : List Access} {items remaining : List Json}
    (hAt : resolve root path = some (.array items)) (position : Nat) (elements : List Pattern)
    {captured : List (String × Json)}
    (hMatch : matchElements eq elements (items.drop position) = some (captured, remaining)) :
    boundValues root (elementBounds path position elements) = some captured := by
  match elements with
  | [] =>
    obtain ⟨rfl, -⟩ : [] = captured ∧ items.drop position = remaining := by
      simpa [matchElements] using hMatch
    rfl
  | p :: ps =>
    -- the elements all matched, so there is an item left for this one
    have hPosition : position < items.length := by
      have hLength := (matchElements_eq_some eq hMatch).1
      rw [List.length_cons, List.length_drop] at hLength
      omega
    rw [List.drop_eq_getElem_cons hPosition] at hMatch
    simp only [matchElements, Option.bind_eq_bind, Option.bind_eq_some_iff, Option.some.injEq,
      Prod.mk.injEq, Prod.exists] at hMatch
    obtain ⟨inner, hInner, later, _, hLater, rfl, -⟩ := hMatch
    have hPart : resolve root (path ++ [.index position]) = some items[position] :=
      (resolve_step hAt (.index position)).trans (List.getElem?_eq_getElem hPosition)
    rw [elementBounds]
    exact boundValues_append (boundValues_patternBounds hPart p hInner)
      (boundValues_elementBounds hAt (position + 1) ps hLater)

end

/-! ## Agreement -/

/-- Carried out on any value, the plan of a pattern follows no path that leads nowhere, its checks
pass exactly on the values that the pattern matches, and its variables then have the values that the
pattern gives them, in the same order. -/
theorem carryOut_pattern (p : Pattern) (v : Json) :
    passes eq v (patternChecks [] p) = some (matchPattern eq p v).isSome ∧
      carryOut eq v (patternChecks [] p) (patternBounds [] p) = some (matchPattern eq p v) := by
  have hAt : resolve v [] = some v := rfl
  have hPasses := passes_patternChecks eq hAt p
  refine ⟨hPasses, ?_⟩
  cases hMatch : matchPattern eq p v with
  | none => simp [carryOut, hPasses, hMatch]
  | some captured =>
    simp [carryOut, hPasses, hMatch, boundValues_patternBounds eq hAt p hMatch]

end ServiceCompiler.Plan
