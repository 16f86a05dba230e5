import ServiceCompiler.Proofs.Target.WrittenType
import ServiceCompiler.Proofs.Text.Words
import ServiceCompiler.Target.TypeScriptType

/-! # The grouping of types

A type is written without parentheses around the members of a union. A function in front of
another member so takes that member into its result: the text of a type tells the type up to
nested unions exactly if no function stands in front of a member. In general it tells the type as
it is read back, `regroup`.

Every type has a written form, and a text has only one. -/

namespace ServiceCompiler.TypeScript.Grouping

open ServiceCompiler.Core (Ty)
open Text (Name joinChars joinChars_cons)

/-- The types whose text is made of names, arrays, unions and functions. -/
inductive Structured : Ty → Prop
  | int : Structured .int
  | string : Structured .string
  | bool : Structured .bool
  | named {name : String} (hName : Text.isIdentifier name = true)
      (hOwn : name ∉ ["number", "string", "boolean", "null"]) : Structured (.named name)
  | array {element : Ty} (h : Structured element) : Structured (.array element)
  | optional {inner : Ty} (h : Structured inner) : Structured (.optional inner)
  | union {ts : List Ty} (hTwo : 2 ≤ ts.length) (h : ∀ t ∈ ts, Structured t) :
      Structured (.union ts)
  | function {params : List Ty} {result : Ty} (hParams : ∀ t ∈ params, Structured t)
      (hResult : Structured result) : Structured (.function params result)

/-! ## Members of a type -/

def nullType : Ty := .named "null"

/-- The type with the given members. -/
def unionOf : List Ty → Ty
  | [t] => t
  | ts => .union ts

mutual

/-- The members of a type: a nested union is taken apart, and an optional type has `null` as its
last member. -/
def members : Ty → List Ty
  | .array element => [.array (unionOf (members element))]
  | .optional inner => members inner ++ [nullType]
  | .union ts => membersOfAll ts
  | .function params result => [.function (flattenEach params) (unionOf (members result))]
  | t => [t]

def membersOfAll : List Ty → List Ty
  | [] => []
  | t :: ts => members t ++ membersOfAll ts

def flattenEach : List Ty → List Ty
  | [] => []
  | t :: ts => unionOf (members t) :: flattenEach ts

end

/-- A type without nested unions and optional types. -/
def flatten (t : Ty) : Ty := unionOf (members t)

mutual

/-- The members that are read where a type is written in front of others: a function has all that
follows in its result. -/
def readBefore (behind : List Ty) : Ty → List Ty
  | .array element => .array (unionOf (readBefore [] element)) :: behind
  | .optional inner => readBefore (nullType :: behind) inner
  | .union ts => readAllBefore behind ts
  | .function params result => [.function (regroupEach params) (unionOf (readBefore behind result))]
  | t => t :: behind

def readAllBefore (behind : List Ty) : List Ty → List Ty
  | [] => behind
  | t :: ts => readBefore (readAllBefore behind ts) t

def regroupEach : List Ty → List Ty
  | [] => []
  | t :: ts => unionOf (readBefore [] t) :: regroupEach ts

end

/-- The type that is read where a type is written. -/
def regroup (t : Ty) : Ty := unionOf (readBefore [] t)

mutual

/-- No function stands in front of another member; `last` tells whether the type itself is the
last member where it stands. -/
def functionsLast (last : Bool) : Ty → Bool
  | .array element => functionsLast true element
  | .optional inner => functionsLast false inner
  | .union ts => allFunctionsLast last ts
  | .function params result => last && eachFunctionsLast params && functionsLast true result
  | _ => true

def allFunctionsLast (last : Bool) : List Ty → Bool
  | [] => true
  | t :: ts => functionsLast (last && ts.isEmpty) t && allFunctionsLast last ts

def eachFunctionsLast : List Ty → Bool
  | [] => true
  | t :: ts => functionsLast true t && eachFunctionsLast ts

end

mutual

/-- Where no function stands in front of a member, the members are read as they are. -/
theorem readBefore_eq (last : Bool) (behind : List Ty) (hLast : last = true → behind = []) :
    (t : Ty) → functionsLast last t = true → readBefore behind t = members t ++ behind
  | .array element, h => by
    rw [functionsLast] at h
    simp [readBefore, members, readBefore_eq true [] (fun _ => rfl) element h]
  | .optional inner, h => by
    rw [functionsLast] at h
    rw [readBefore, members, readBefore_eq false (nullType :: behind) (by simp) inner h]
    simp
  | .union ts, h => by
    rw [functionsLast] at h
    rw [readBefore, members, readAllBefore_eq last behind hLast ts h]
  | .function params result, h => by
    simp only [functionsLast, Bool.and_eq_true] at h
    obtain ⟨⟨hEnd, hParams⟩, hResult⟩ := h
    obtain rfl : behind = [] := hLast hEnd
    simp [readBefore, members, regroupEach_eq params hParams,
      readBefore_eq true [] (fun _ => rfl) result hResult]
  | .int, _ | .float, _ | .string, _ | .bool, _ | .any, _ | .future _, _ | .generic _ _, _
  | .named _, _ | .provider _, _ => by simp [readBefore, members]

theorem readAllBefore_eq (last : Bool) (behind : List Ty) (hLast : last = true → behind = []) :
    (ts : List Ty) → allFunctionsLast last ts = true →
      readAllBefore behind ts = membersOfAll ts ++ behind
  | [], _ => rfl
  | t :: ts, h => by
    simp only [allFunctionsLast, Bool.and_eq_true] at h
    have hRest := readAllBefore_eq last behind hLast ts h.2
    rw [readAllBefore, membersOfAll, hRest, readBefore_eq _ _ ?_ t h.1, List.append_assoc]
    intro hEnd
    simp only [Bool.and_eq_true, List.isEmpty_iff] at hEnd
    rw [hEnd.2, membersOfAll, hLast hEnd.1, List.nil_append]

theorem regroupEach_eq :
    (ts : List Ty) → eachFunctionsLast ts = true → regroupEach ts = flattenEach ts
  | [], _ => rfl
  | t :: ts, h => by
    simp only [eachFunctionsLast, Bool.and_eq_true] at h
    simp [regroupEach, flattenEach, readBefore_eq true [] (fun _ => rfl) t h.1,
      regroupEach_eq ts h.2]

end

theorem regroup_eq_flatten {t : Ty} (h : functionsLast true t = true) :
    regroup t = flatten t := by
  simp [regroup, flatten, readBefore_eq true [] (fun _ => rfl) t h]

/-! ## From a type to its written form -/

/-- The type that a name stands for. -/
def wordType (name : Name) : Ty :=
  if name.text = "number" then .int
  else if name.text = "string" then .string
  else if name.text = "boolean" then .bool
  else .named name.text

def arrays : Nat → Ty → Ty
  | 0, t => t
  | depth + 1, t => arrays depth (.array t)

mutual

def Form.members : Form → List Ty
  | .word name depth more => arrays depth (wordType name) :: more.members
  | .group inner depth more => arrays (depth + 1) (unionOf inner.members) :: more.members
  | .function params result => [.function params.types (unionOf result.members)]

def More.members : More → List Ty
  | .done => []
  | .next form => form.members

def Params.types : Params → List Ty
  | .done => []
  | .param form rest => unionOf form.members :: rest.types

end

theorem readBefore_arrays (behind : List Ty) (depth : Nat) {t u : Ty}
    (h : ∀ behind, readBefore behind t = u :: behind) :
    readBefore behind (arrays depth t) = arrays depth u :: behind := by
  induction depth generalizing t u with
  | zero => exact h behind
  | succ depth ih =>
    refine ih (fun behind => ?_)
    rw [readBefore, h]
    rfl

/-- Every type is written in some form, in front of any further members and, unless it is
compound, with any brackets. -/
def Written (t : Ty) : Prop :=
  ∀ (depth : Nat) (more : More), (depth = 0 ∨ isCompound t = false) →
    ∃ form : Form, form.chars = (typeText t).toList ++ (brackets depth ++ more.chars) ∧
      form.members = readBefore more.members (arrays depth t)

theorem written_word {t : Ty} (name : Name) (hText : typeText t = name.text)
    (hRead : ∀ behind, readBefore behind t = t :: behind) (hType : wordType name = t) :
    Written t := by
  intro depth more _
  refine ⟨.word name depth more, by rw [Form.chars, hText, Name.chars], ?_⟩
  rw [Form.members, hType, readBefore_arrays _ _ hRead]

theorem written_array {element : Ty} (h : Written element) : Written (.array element) := by
  intro depth more _
  by_cases hCompound : isCompound element = true
  · obtain ⟨inner, hChars, hMembers⟩ := h 0 .done (.inl rfl)
    refine ⟨.group inner depth more, ?_, ?_⟩
    · simp [Form.chars, hChars, typeText, arrayText, hCompound, brackets, More.chars, toString]
    · have hRead : ∀ behind, readBefore behind (.array element) =
          .array (unionOf (readBefore [] element)) :: behind := fun behind => by rw [readBefore]
      rw [Form.members, readBefore_arrays _ _ hRead, hMembers]
      rfl
  · obtain ⟨form, hChars, hMembers⟩ := h (depth + 1) more (.inr (by simpa using hCompound))
    refine ⟨form, ?_, hMembers⟩
    simp [hChars, typeText, arrayText, hCompound, brackets, toString]

def nullName : Name := ⟨"null", by decide⟩

theorem written_optional {inner : Ty} (h : Written inner) : Written (.optional inner) := by
  intro depth more hDepth
  obtain rfl : depth = 0 := by simpa [isCompound] using hDepth
  obtain ⟨form, hChars, hMembers⟩ := h 0 (.next (.word nullName 0 more)) (.inl rfl)
  refine ⟨form, ?_, ?_⟩
  · simp [hChars, typeText, More.chars, Form.chars, brackets, Name.chars, nullName, toString]
  · rw [hMembers, More.members, Form.members]
    rfl

theorem toList_join (sep : String) (pieces : List String) :
    (Text.join sep pieces).toList = joinChars sep.toList (pieces.map String.toList) := by
  simp [Text.join]

theorem exists_form_union {t : Ty} {ts : List Ty} (h : ∀ u ∈ t :: ts, Written u) (more : More) :
    ∃ form : Form,
      form.chars = (Text.join " | " (typeTexts (t :: ts))).toList ++ more.chars ∧
      form.members = readAllBefore more.members (t :: ts) := by
  induction ts generalizing t with
  | nil =>
    obtain ⟨form, hChars, hMembers⟩ := h t List.mem_cons_self 0 more (.inl rfl)
    refine ⟨form, ?_, ?_⟩
    · simpa [toList_join, typeTexts, joinChars, brackets] using hChars
    · rw [hMembers]
      rfl
  | cons u us ih =>
    obtain ⟨rest, hRest, hRestMembers⟩ := ih (fun v hv => h v (List.mem_cons_of_mem _ hv))
    obtain ⟨form, hChars, hMembers⟩ := h t List.mem_cons_self 0 (.next rest) (.inl rfl)
    refine ⟨form, ?_, ?_⟩
    · rw [hChars, More.chars, hRest]
      simp [toList_join, typeTexts, joinChars, brackets]
    · rw [hMembers, More.members, hRestMembers]
      rfl

theorem written_union {ts : List Ty} (hTwo : 2 ≤ ts.length) (h : ∀ t ∈ ts, Written t) :
    Written (.union ts) := by
  intro depth more hDepth
  obtain rfl : depth = 0 := by simpa [isCompound] using hDepth
  cases ts with
  | nil => cases hTwo
  | cons t ts =>
    obtain ⟨form, hChars, hMembers⟩ := exists_form_union h more
    exact ⟨form, by rw [hChars, typeText]; rfl, by rw [hMembers]; rfl⟩

theorem toList_param (n : Nat) (text : String) :
    (s!"arg{n}: {text}").toList = paramLead n ++ text.toList := by
  simp [paramLead, toString, Nat.toList_repr]

theorem exists_params {ts : List Ty} (h : ∀ t ∈ ts, Written t) :
    ∃ params : Params, params.types = regroupEach ts ∧
      (∀ n, params.charsFrom n =
        ((numberedParams n (typeTexts ts)).map String.toList).flatMap (", ".toList ++ ·)) ∧
      params.chars = (Text.join ", " (numberedParams 0 (typeTexts ts))).toList := by
  induction ts with
  | nil => exact ⟨.done, rfl, fun _ => rfl, rfl⟩
  | cons t ts ih =>
    obtain ⟨rest, hTypes, hFrom, -⟩ := ih (fun u hu => h u (List.mem_cons_of_mem _ hu))
    obtain ⟨form, hChars, hMembers⟩ := h t List.mem_cons_self 0 .done (.inl rfl)
    have hText : form.chars = (typeText t).toList := by
      simpa [brackets, More.chars] using hChars
    refine ⟨.param form rest, ?_, fun n => ?_, ?_⟩
    · rw [Params.types, hMembers, hTypes]
      rfl
    · rw [Params.charsFrom, hText, hFrom]
      simp only [typeTexts, numberedParams, List.map_cons, List.flatMap_cons, toList_param,
        List.append_assoc]
    · rw [Params.chars, hText, hFrom, toList_join]
      simp only [typeTexts, numberedParams, List.map_cons, joinChars_cons, toList_param,
        List.append_assoc]

theorem written_function {params : List Ty} {result : Ty} (hParams : ∀ t ∈ params, Written t)
    (hResult : Written result) : Written (.function params result) := by
  intro depth more hDepth
  obtain rfl : depth = 0 := by simpa [isCompound] using hDepth
  obtain ⟨written, hTypes, -, hChars⟩ := exists_params hParams
  obtain ⟨form, hForm, hMembers⟩ := hResult 0 more (.inl rfl)
  refine ⟨.function written form, ?_, ?_⟩
  · rw [Form.chars, hChars, hForm]
    simp [typeText, brackets]
  · rw [Form.members, hTypes, hMembers]
    rfl

theorem Structured.written {t : Ty} (h : Structured t) : Written t := by
  induction h with
  | int => exact written_word ⟨"number", by decide⟩ rfl (fun _ => rfl) rfl
  | string => exact written_word ⟨"string", by decide⟩ rfl (fun _ => rfl) rfl
  | bool => exact written_word ⟨"boolean", by decide⟩ rfl (fun _ => rfl) rfl
  | @named name hName hOwn =>
    refine written_word ⟨name, hName⟩ rfl (fun _ => rfl) ?_
    simp only [List.mem_cons, List.not_mem_nil, not_or, or_false] at hOwn
    simp [wordType, hOwn.1, hOwn.2.1, hOwn.2.2.1]
  | array _ ih => exact written_array ih
  | optional _ ih => exact written_optional ih
  | union hTwo _ ih => exact written_union hTwo ih
  | function _ _ ihParams ihResult => exact written_function ihParams ihResult

/-- The form of a type, alone. -/
theorem Structured.exists_form {t : Ty} (h : Structured t) :
    ∃ form : Form, form.chars = (typeText t).toList ∧ form.members = readBefore [] t := by
  obtain ⟨form, hChars, hMembers⟩ := h.written 0 .done (.inl rfl)
  exact ⟨form, by simpa [brackets, More.chars] using hChars, hMembers⟩

theorem regroup_eq_of_text {a b : Ty} (ha : Structured a) (hb : Structured b)
    (h : typeText a = typeText b) : regroup a = regroup b := by
  obtain ⟨f, hf, hfMembers⟩ := ha.exists_form
  obtain ⟨g, hg, hgMembers⟩ := hb.exists_form
  obtain rfl : f = g := Form.chars_injective (by rw [hf, hg, h])
  rw [regroup, regroup, ← hfMembers, ← hgMembers]

/-! ## The text of a type as it is read -/

theorem Structured.readBefore_ne_nil {t : Ty} (h : Structured t) (behind : List Ty) :
    readBefore behind t ≠ [] := by
  induction h generalizing behind with
  | int | string | bool | named _ _ | array _ _ | function _ _ _ _ => exact List.cons_ne_nil _ _
  | optional _ ih => exact ih _
  | @union ts hTwo _ ih =>
    cases ts with
    | nil => cases hTwo
    | cons t ts => exact ih t List.mem_cons_self _

theorem readAllBefore_ne_nil {ts : List Ty} (h : ∀ t ∈ ts, Structured t) {behind : List Ty}
    (hSome : behind ≠ [] ∨ ts ≠ []) : readAllBefore behind ts ≠ [] := by
  cases ts with
  | nil => simpa [readAllBefore] using hSome
  | cons t ts => exact (h t List.mem_cons_self).readBefore_ne_nil _

theorem isCompound_unionOf_cons (t : Ty) {ts : List Ty} (h : ts ≠ []) :
    isCompound (unionOf (t :: ts)) = true := by
  cases ts with
  | nil => exact absurd rfl h
  | cons u us => rfl

/-- In front of other members every type is read as a union or a function. -/
theorem Structured.isCompound_readBefore {t : Ty} (h : Structured t) {behind : List Ty}
    (hBehind : behind ≠ []) : isCompound (unionOf (readBefore behind t)) = true := by
  induction h generalizing behind with
  | int | string | bool | named _ _ | array _ _ => exact isCompound_unionOf_cons _ hBehind
  | optional _ ih => exact ih (List.cons_ne_nil _ _)
  | @union ts hTwo hMembers ih =>
    cases ts with
    | nil => cases hTwo
    | cons t ts =>
      refine ih t List.mem_cons_self (readAllBefore_ne_nil (fun u hu => ?_) (.inl hBehind))
      exact hMembers u (List.mem_cons_of_mem _ hu)
  | function _ _ _ _ => rfl

theorem Structured.isCompound_regroup {t : Ty} (h : Structured t) :
    isCompound (regroup t) = isCompound t := by
  cases h with
  | int | string | bool | named _ _ | array _ | function _ _ => rfl
  | optional hInner => exact hInner.isCompound_readBefore (List.cons_ne_nil _ _)
  | @union ts hTwo hMembers =>
    match ts with
    | [] | [_] => simp at hTwo
    | t :: u :: us =>
      refine (hMembers t List.mem_cons_self).isCompound_readBefore ?_
      refine readAllBefore_ne_nil (fun v hv => ?_) (.inr (List.cons_ne_nil u us))
      exact hMembers v (List.mem_cons_of_mem _ hv)

/-- The members behind a type, each with its bar. -/
def spread (ts : List Ty) : List Char :=
  (typeTexts ts).flatMap fun text => " | ".toList ++ text.toList

theorem spread_cons (t : Ty) (ts : List Ty) :
    spread (t :: ts) = " | ".toList ++ (typeText t).toList ++ spread ts := by
  simp [spread, typeTexts]

theorem spread_eq_text {ts : List Ty} (h : ts ≠ []) :
    spread ts = " | ".toList ++ (typeText (unionOf ts)).toList := by
  match ts with
  | [] => exact absurd rfl h
  | [t] => simp [spread, typeTexts, unionOf]
  | t :: u :: us =>
    rw [unionOf, typeText, toList_join]
    · simp [spread, typeTexts, joinChars_cons, List.flatMap_map]
    · simp

/-- What is read in front of other members has the text of the type in front of theirs. -/
def KeepsText (t : Ty) : Prop :=
  ∀ behind, spread (readBefore behind t) = " | ".toList ++ (typeText t).toList ++ spread behind

theorem Structured.text_readBefore {t : Ty} (h : Structured t) (hKeeps : KeepsText t)
    (behind : List Ty) :
    (typeText (unionOf (readBefore behind t))).toList = (typeText t).toList ++ spread behind := by
  have hSpread := hKeeps behind
  rw [spread_eq_text (h.readBefore_ne_nil behind), List.append_assoc] at hSpread
  exact List.append_cancel_left hSpread

theorem Structured.text_regroup {t : Ty} (h : Structured t) (hKeeps : KeepsText t) :
    typeText (regroup t) = typeText t := by
  rw [← String.toList_inj, regroup, h.text_readBefore hKeeps, spread, typeTexts,
    List.flatMap_nil, List.append_nil]

theorem spread_readAllBefore {ts : List Ty} (h : ∀ t ∈ ts, KeepsText t) (behind : List Ty) :
    spread (readAllBefore behind ts) = spread ts ++ spread behind := by
  induction ts with
  | nil => rfl
  | cons t ts ih =>
    have hRest := ih (fun u hu => h u (List.mem_cons_of_mem _ hu))
    rw [readAllBefore, h t List.mem_cons_self, hRest, spread_cons]
    simp only [List.append_assoc]

theorem typeTexts_regroupEach {ts : List Ty} (h : ∀ t ∈ ts, Structured t)
    (hKeeps : ∀ t ∈ ts, KeepsText t) : typeTexts (regroupEach ts) = typeTexts ts := by
  induction ts with
  | nil => rfl
  | cons t ts ih =>
    have hRest := ih (fun u hu => h u (List.mem_cons_of_mem _ hu))
      (fun u hu => hKeeps u (List.mem_cons_of_mem _ hu))
    have hText := (h t List.mem_cons_self).text_regroup (hKeeps t List.mem_cons_self)
    rw [regroupEach, typeTexts, typeTexts, hRest, ← regroup, hText]

theorem Structured.keepsText {t : Ty} (h : Structured t) : KeepsText t := by
  induction h with
  | int | string | bool | named _ _ => exact fun behind => spread_cons _ behind
  | @array element hElement ih =>
    intro behind
    have hText : typeText (.array (regroup element)) = typeText (.array element) := by
      rw [typeText, typeText, hElement.text_regroup ih, arrayText, arrayText,
        hElement.isCompound_regroup]
    rw [readBefore, spread_cons, ← regroup, hText]
  | optional _ ih =>
    intro behind
    rw [readBefore, ih, spread_cons]
    simp [typeText, nullType, toString]
  | @union ts hTwo _ ih =>
    intro behind
    have hText : spread ts = " | ".toList ++ (typeText (.union ts)).toList := by
      -- a union of less than two members is not written with bars
      match ts with
      | [] | [_] => simp at hTwo
      | t :: u :: us => exact spread_eq_text (List.cons_ne_nil _ _)
    rw [readBefore, spread_readAllBefore ih, hText]
  | function hParams hResult ihParams ihResult =>
    intro behind
    have hText := hResult.text_readBefore ihResult behind
    rw [readBefore, spread_cons]
    simp [typeText, typeTexts_regroupEach hParams ihParams, hText, spread, typeTexts]

/-! ## What the text of a type tells -/

/-- Two types have one text exactly if they are read as the same type. Types in which no function
stands in front of another member have one text exactly if they are equal up to nested unions. -/
theorem typeText_eq_iff_regroup {a b : Ty} (ha : Structured a) (hb : Structured b) :
    (typeText a = typeText b ↔ regroup a = regroup b) ∧
      (functionsLast true a = true → functionsLast true b = true →
        (typeText a = typeText b ↔ flatten a = flatten b)) := by
  have hRead : typeText a = typeText b ↔ regroup a = regroup b := by
    refine ⟨regroup_eq_of_text ha hb, fun h => ?_⟩
    rw [← ha.text_regroup ha.keepsText, h, hb.text_regroup hb.keepsText]
  refine ⟨hRead, fun haLast hbLast => ?_⟩
  rw [hRead, regroup_eq_flatten haLast, regroup_eq_flatten hbLast]

/-- An optional union of a number and predicates, and the same members grouped the other way. -/
def optionalUnion : Ty := .optional (.union [.int, .array (.function [.string] .bool)])

def unionOfOptional : Ty := .union [.int, .optional (.array (.function [.string] .bool))]

theorem structured_predicates : Structured (.array (.function [.string] .bool)) := by
  refine .array (.function (fun t ht => ?_) .bool)
  obtain rfl := List.mem_singleton.mp ht
  exact .string

theorem structured_optionalUnion : Structured optionalUnion := by
  refine .optional (.union (by decide) (fun t ht => ?_))
  simp only [List.mem_cons, List.not_mem_nil, or_false] at ht
  rcases ht with rfl | rfl
  · exact .int
  · exact structured_predicates

theorem structured_unionOfOptional : Structured unionOfOptional := by
  refine .union (by decide) (fun t ht => ?_)
  simp only [List.mem_cons, List.not_mem_nil, or_false] at ht
  rcases ht with rfl | rfl
  · exact .int
  · exact .optional structured_predicates

theorem typeText_optionalUnion : Structured optionalUnion ∧ Structured unionOfOptional ∧
    functionsLast true optionalUnion = true ∧ functionsLast true unionOfOptional = true ∧
    flatten optionalUnion = flatten unionOfOptional ∧
    typeText optionalUnion = typeText unionOfOptional := by
  obtain ⟨-, hFlat⟩ := typeText_eq_iff_regroup structured_optionalUnion structured_unionOfOptional
  exact ⟨structured_optionalUnion, structured_unionOfOptional, rfl, rfl, rfl,
    (hFlat rfl rfl).mpr rfl⟩

/-- A function or a string. -/
def callbackOrText : Ty := .union [.function [] .int, .string]

/-- A function whose result is a number or a string. -/
def callbackOfEither : Ty := .function [] (.union [.int, .string])

theorem structured_callbackOrText : Structured callbackOrText := by
  refine .union (by decide) (fun t ht => ?_)
  simp only [List.mem_cons, List.not_mem_nil, or_false] at ht
  rcases ht with rfl | rfl
  · exact .function (fun t ht => absurd ht List.not_mem_nil) .int
  · exact .string

theorem structured_callbackOfEither : Structured callbackOfEither := by
  refine .function (fun t ht => absurd ht List.not_mem_nil) (.union (by decide) (fun t ht => ?_))
  simp only [List.mem_cons, List.not_mem_nil, or_false] at ht
  rcases ht with rfl | rfl
  · exact .int
  · exact .string

/-- Both are written `() => number | string`, and they are not equal up to nested unions. -/
theorem typeText_callbackOrText : Structured callbackOrText ∧ Structured callbackOfEither ∧
    typeText callbackOrText = "() => number | string" ∧
    typeText callbackOfEither = "() => number | string" ∧
    flatten callbackOrText ≠ flatten callbackOfEither := by
  refine ⟨structured_callbackOrText, structured_callbackOfEither, rfl, rfl, fun h => ?_⟩
  cases h

end ServiceCompiler.TypeScript.Grouping
