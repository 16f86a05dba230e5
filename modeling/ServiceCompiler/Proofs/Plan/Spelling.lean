import ServiceCompiler.Plan.Callable
import ServiceCompiler.Plan.Usage
import ServiceCompiler.Proofs.Core.Spelling
import ServiceCompiler.Proofs.Plan.Pattern
import ServiceCompiler.Proofs.Plan.Selection

/-! # Names and strings of plans

The checks and variables that a pattern is planned into have no names and strings but those of the
pattern. -/

namespace ServiceCompiler.Plan

open ServiceCompiler.Core (Pattern PatternField Expr Node)

def Access.names : Access → List String
  | key name => [name]
  | index _ | restFrom _ => []

def pathNames (path : List Access) : List String := path.flatMap Access.names

def Bound.names (b : Bound) : List String := b.name :: pathNames b.path

def Check.names : Check → List String
  | isObject path | arrayLength path _ _ | equals path _ => pathNames path
  | hasKey path key => key :: pathNames path

def Check.strings : Check → List String
  | equals _ value => value.strings
  | isObject _ | hasKey _ _ | arrayLength _ _ _ => []

variable {N S : String → Prop}

theorem pathNames_snoc {path : List Access} {step : Access} (hPath : ∀ x ∈ pathNames path, N x)
    (hStep : ∀ x ∈ step.names, N x) : ∀ x ∈ pathNames (path ++ [step]), N x := by
  simp only [pathNames, List.flatMap_append, List.flatMap_singleton, List.mem_append]
  rintro x (hx | hx)
  · exact hPath x hx
  · exact hStep x hx

mutual

theorem spelling_patternChecks {path : List Access} (hPath : ∀ x ∈ pathNames path, N x)
    (p : Pattern) (hNames : ∀ x ∈ p.names, N x) (hStrings : ∀ x ∈ p.strings, S x) :
    ∀ c ∈ patternChecks path p, (∀ x ∈ c.names, N x) ∧ ∀ x ∈ c.strings, S x := by
  cases p with
  | wildcard => simp [patternChecks]
  | «variable» name => simp [patternChecks]
  | literal value =>
    rw [patternChecks, List.forall_mem_singleton]
    exact ⟨hPath, by simpa [Pattern.strings, Check.strings] using hStrings⟩
  | object fields =>
    rw [patternChecks, List.forall_mem_cons]
    refine ⟨⟨hPath, nofun⟩, ?_⟩
    exact spelling_fieldChecks hPath fields (by simpa [Pattern.names] using hNames)
      (by simpa [Pattern.strings] using hStrings)
  | array elements rest =>
    simp only [Pattern.names, List.forall_mem_append] at hNames
    rw [patternChecks, List.forall_mem_cons]
    refine ⟨⟨hPath, nofun⟩, ?_⟩
    exact spelling_elementChecks hPath 0 elements hNames.1
      (by simpa [Pattern.strings] using hStrings)

theorem spelling_fieldChecks {path : List Access} (hPath : ∀ x ∈ pathNames path, N x)
    (fields : List PatternField) (hNames : ∀ x ∈ Pattern.fieldNames fields, N x)
    (hStrings : ∀ x ∈ Pattern.fieldStrings fields, S x) :
    ∀ c ∈ fieldChecks path fields, (∀ x ∈ c.names, N x) ∧ ∀ x ∈ c.strings, S x := by
  match fields with
  | [] => simp [fieldChecks]
  | ⟨key, none⟩ :: fs =>
    rw [Pattern.fieldNames, List.forall_mem_cons] at hNames
    rw [fieldChecks, List.forall_mem_cons]
    refine ⟨⟨List.forall_mem_cons.mpr ⟨hNames.1, hPath⟩, nofun⟩, ?_⟩
    exact spelling_fieldChecks hPath fs hNames.2 (by simpa [Pattern.fieldStrings] using hStrings)
  | ⟨key, some p⟩ :: fs =>
    rw [Pattern.fieldNames, List.forall_mem_cons, List.forall_mem_append] at hNames
    rw [Pattern.fieldStrings, List.forall_mem_append] at hStrings
    obtain ⟨hKey, hInner, hLater⟩ := hNames
    rw [fieldChecks, List.cons_append, List.forall_mem_cons, List.forall_mem_append]
    refine ⟨⟨List.forall_mem_cons.mpr ⟨hKey, hPath⟩, nofun⟩, ?_, ?_⟩
    · exact spelling_patternChecks (pathNames_snoc hPath (by simpa [Access.names] using hKey)) p
        hInner hStrings.1
    · exact spelling_fieldChecks hPath fs hLater hStrings.2

theorem spelling_elementChecks {path : List Access} (hPath : ∀ x ∈ pathNames path, N x)
    (position : Nat) (elements : List Pattern) (hNames : ∀ x ∈ Pattern.listNames elements, N x)
    (hStrings : ∀ x ∈ Pattern.listStrings elements, S x) :
    ∀ c ∈ elementChecks path position elements,
      (∀ x ∈ c.names, N x) ∧ ∀ x ∈ c.strings, S x := by
  match elements with
  | [] => simp [elementChecks]
  | p :: ps =>
    rw [Pattern.listNames, List.forall_mem_append] at hNames
    rw [Pattern.listStrings, List.forall_mem_append] at hStrings
    rw [elementChecks, List.forall_mem_append]
    refine ⟨?_, spelling_elementChecks hPath (position + 1) ps hNames.2 hStrings.2⟩
    exact spelling_patternChecks (pathNames_snoc hPath (by simp [Access.names])) p hNames.1
      hStrings.1

end

mutual

theorem spelling_patternBounds {path : List Access} (hPath : ∀ x ∈ pathNames path, N x)
    (p : Pattern) (hNames : ∀ x ∈ p.names, N x) :
    ∀ b ∈ patternBounds path p, ∀ x ∈ b.names, N x := by
  cases p with
  | wildcard => simp [patternBounds]
  | «variable» name =>
    rw [Pattern.names, List.forall_mem_singleton] at hNames
    rw [patternBounds]
    split
    · simp
    · exact List.forall_mem_singleton.mpr (List.forall_mem_cons.mpr ⟨hNames, hPath⟩)
  | literal value => simp [patternBounds]
  | object fields =>
    rw [patternBounds]
    exact spelling_fieldBounds hPath fields (by simpa [Pattern.names] using hNames)
  | array elements rest =>
    rw [Pattern.names, List.forall_mem_append] at hNames
    rw [patternBounds_array, List.forall_mem_append]
    refine ⟨spelling_elementBounds hPath 0 elements hNames.1, ?_⟩
    cases rest with
    | none => simp
    | some name =>
      refine List.forall_mem_singleton.mpr (List.forall_mem_cons.mpr ⟨hNames.2 name (by simp), ?_⟩)
      exact pathNames_snoc hPath (by simp [Access.names])

theorem spelling_fieldBounds {path : List Access} (hPath : ∀ x ∈ pathNames path, N x)
    (fields : List PatternField) (hNames : ∀ x ∈ Pattern.fieldNames fields, N x) :
    ∀ b ∈ fieldBounds path fields, ∀ x ∈ b.names, N x := by
  match fields with
  | [] => simp [fieldBounds]
  | ⟨key, none⟩ :: fs =>
    rw [Pattern.fieldNames, List.forall_mem_cons] at hNames
    rw [fieldBounds, List.forall_mem_cons]
    refine ⟨List.forall_mem_cons.mpr ⟨hNames.1, ?_⟩, spelling_fieldBounds hPath fs hNames.2⟩
    exact pathNames_snoc hPath (by simpa [Access.names] using hNames.1)
  | ⟨key, some p⟩ :: fs =>
    rw [Pattern.fieldNames, List.forall_mem_cons, List.forall_mem_append] at hNames
    obtain ⟨hKey, hInner, hLater⟩ := hNames
    rw [fieldBounds, List.forall_mem_append]
    refine ⟨?_, spelling_fieldBounds hPath fs hLater⟩
    exact spelling_patternBounds (pathNames_snoc hPath (by simpa [Access.names] using hKey)) p hInner

theorem spelling_elementBounds {path : List Access} (hPath : ∀ x ∈ pathNames path, N x)
    (position : Nat) (elements : List Pattern) (hNames : ∀ x ∈ Pattern.listNames elements, N x) :
    ∀ b ∈ elementBounds path position elements, ∀ x ∈ b.names, N x := by
  match elements with
  | [] => simp [elementBounds]
  | p :: ps =>
    rw [Pattern.listNames, List.forall_mem_append] at hNames
    rw [elementBounds, List.forall_mem_append]
    refine ⟨?_, spelling_elementBounds hPath (position + 1) ps hNames.2⟩
    exact spelling_patternBounds (pathNames_snoc hPath (by simp [Access.names])) p hNames.1

end

/-- A dotted name has what its parts have and points keep. -/
theorem spelling_dottedName (hDot : ∀ a b, N a → N b → N s!"{a}.{b}") (e : Expr)
    (h : (Node.expr e).Throughout fun n => ∀ x ∈ n.names, N x) {name : String}
    (hName : dottedName e = some name) : N name := by
  match e with
  | .var x =>
    obtain rfl := Option.some.inj hName
    exact h.here x List.mem_cons_self
  | .field target x =>
    obtain ⟨base, hBase, rfl⟩ := Option.map_eq_some_iff.mp hName
    have hTarget := h.part (m := .expr target) (by simp)
    exact hDot base x (spelling_dottedName hDot target hTarget hBase) (h.here x List.mem_cons_self)
  | .int _ | .float _ | .string _ | .bool _ | .null | .binary _ _ _ | .unary _ _ | .index _ _
  | .call _ _ _ | .object _ | .array _ | .lambda _ _ | .pipe _ _ | .matchOn _ _ | .async _
  | .await _ => cases hName

theorem spelling_providerPath (e : Expr)
    (h : (Node.expr e).Throughout fun n => ∀ x ∈ n.names, N x) {root : String}
    {path : List String} (hPath : providerPath? e = some (root, path)) :
    N root ∧ ∀ x ∈ path, N x := by
  match e with
  | .var name =>
    obtain ⟨rfl, rfl⟩ := Prod.mk.inj (Option.some.inj hPath)
    exact ⟨h.here _ List.mem_cons_self, nofun⟩
  | .field target name =>
    obtain ⟨⟨base, fields⟩, hBase, hEq⟩ := Option.map_eq_some_iff.mp hPath
    obtain ⟨rfl, rfl⟩ := Prod.mk.inj hEq
    obtain ⟨hRoot, hFields⟩ := spelling_providerPath target (h.part (by simp)) hBase
    refine ⟨hRoot, List.forall_mem_append.mpr ⟨hFields, ?_⟩⟩
    exact List.forall_mem_singleton.mpr (h.here name List.mem_cons_self)
  | .int _ | .float _ | .string _ | .bool _ | .null | .binary _ _ _ | .unary _ _ | .index _ _
  | .call _ _ _ | .object _ | .array _ | .lambda _ _ | .pipe _ _ | .matchOn _ _ | .async _
  | .await _ => cases hPath

/-! ## What calls name -/

def lastName? : Expr → Option String
  | .var name | .field _ name => some name
  | _ => none

/-- The name under which an expression calls a function, not a method. -/
def calledFunction? : Expr → Option String
  | .call name _ args =>
    match classify name args with
    | .function name _ => some name
    | .method _ _ _ => none
  | .pipe left right => calledName? (.pipe left right)
  | _ => none

/-- What an expression calls, by name or as a method of the last name of its receiver. -/
def calledPath? : Expr → Option String
  | .call name _ args =>
    match classify name args with
    | .method receiver name _ => (lastName? receiver).map fun r => r ++ "." ++ name
    | .function name _ => some name
  | .pipe left right => calledName? (.pipe left right)
  | _ => none

theorem classify_eq_method {name method : String} {args rest : List Expr} {receiver : Expr}
    (h : classify name args = .method receiver method rest) :
    args = receiver :: rest ∧ method = name ∧ ∃ r, lastName? receiver = some r := by
  unfold classify at h
  split at h
  · split at h
    · rename_i first more hReceiver
      obtain ⟨rfl, rfl, rfl⟩ := CallShape.method.inj h
      refine ⟨rfl, rfl, ?_⟩
      rw [Bool.and_eq_true] at hReceiver
      unfold isReceiver at hReceiver
      split at hReceiver
      · exact ⟨_, rfl⟩
      · exact ⟨_, rfl⟩
      · exact absurd hReceiver.1 Bool.false_ne_true
    · cases h
  · cases h

theorem classify_eq_function {name called : String} {args texts : List Expr}
    (h : classify name args = .function called texts) : called = name ∧ texts = args := by
  unfold classify at h
  split at h
  · split at h
    · cases h
    · obtain ⟨rfl, rfl⟩ := CallShape.function.inj h
      exact ⟨rfl, rfl⟩
  · obtain ⟨rfl, rfl⟩ := CallShape.function.inj h
    exact ⟨rfl, rfl⟩

theorem calledFunction?_of_classify {name called : String} {args texts : List Expr}
    (h : classify name args = .function called texts) (typeArgs : List Core.Ty) :
    calledFunction? (.call name typeArgs args) = some name := by
  obtain ⟨rfl, -⟩ := classify_eq_function h
  rw [calledFunction?, h]

theorem pipeCall_of_dottedName {left right : Expr} {name : String}
    (h : dottedName right = some name) : pipeCall left right = .call name [left] := by
  cases right with
  | var x => obtain rfl := Option.some.inj h; rfl
  | field target x => simp only [pipeCall, h]
  | _ => cases h

theorem calledName?_of_dottedName {left right : Expr} {name : String}
    (h : dottedName right = some name) : calledName? (.pipe left right) = some name := by
  rw [calledName?, pipeCall_of_dottedName h]

end ServiceCompiler.Plan
