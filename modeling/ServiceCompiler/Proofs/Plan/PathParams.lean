import Mathlib.Data.List.Forall2
import ServiceCompiler.Build.Path
import ServiceCompiler.Plan.Path
import ServiceCompiler.Proofs.Text.Words

/-! # Parameters of paths in two notations

A path is converted segment by segment. Main statement: the conversion to braces changes the
segments `:name` with a name and nothing else, so that it keeps the parameters and has nothing to do
a second time; and the parameters that a route knows by their colons are those of the converted
path, if the path was not written with braces in the first place. -/

namespace ServiceCompiler.Plan

open Text (splitChars splitAt)

/-! ## Segments -/

theorem braceSegment_cases (segment : List Char) :
    (∃ c cs, segment = ':' :: c :: cs ∧ braceSegment segment = '{' :: (c :: cs ++ ['}'])) ∨
      (∀ c cs, segment ≠ ':' :: c :: cs) ∧ braceSegment segment = segment := by
  unfold braceSegment
  split
  · exact .inl ⟨_, _, rfl, rfl⟩
  · rename_i hOther
    exact .inr ⟨hOther, rfl⟩

theorem bracedName?_eq_some {segment name : List Char} :
    bracedName? segment = some name ↔ segment = '{' :: (name ++ ['}']) := by
  constructor
  · intro hName
    unfold bracedName? at hName
    split at hName
    · rename_i cs
      split at hName
      · rename_i inside hReverse
        obtain rfl := Option.some.inj hName
        rw [← List.reverse_cons, ← hReverse, List.reverse_reverse]
      · cases hName
    · cases hName
  · rintro rfl
    simp [bracedName?]

theorem segmentName?_eq_some {segment name : List Char} :
    segmentName? segment = some name ↔
      segment = ':' :: name ∨ segment = '{' :: (name ++ ['}']) := by
  unfold segmentName?
  split
  · simp [eq_comm]
  · rename_i hOther
    rw [bracedName?_eq_some]
    exact (or_iff_right (hOther name)).symm

theorem slash_not_mem_braceSegment {segment : List Char} (h : '/' ∉ segment) :
    '/' ∉ braceSegment segment := by
  rcases braceSegment_cases segment with ⟨c, cs, rfl, hBrace⟩ | ⟨-, hSame⟩
  · rw [hBrace]
    simpa using h
  · rwa [hSame]

theorem braceSegment_braceSegment (segment : List Char) :
    braceSegment (braceSegment segment) = braceSegment segment := by
  rcases braceSegment_cases segment with ⟨c, cs, -, hBrace⟩ | ⟨-, hSame⟩
  · rw [hBrace]
    rfl
  · rw [hSame, hSame]

theorem segmentName?_braceSegment (segment : List Char) :
    segmentName? (braceSegment segment) = segmentName? segment := by
  rcases braceSegment_cases segment with ⟨c, cs, rfl, hBrace⟩ | ⟨-, hSame⟩
  · rw [hBrace]
    exact segmentName?_eq_some.mpr (.inr rfl)
  · rw [hSame]

/-- The parameter of a segment; there is none without a name. -/
def paramName? (segment : List Char) : Option String :=
  ((segmentName? segment).filter (!·.isEmpty)).map String.ofList

theorem paramName?_eq_some {segment : List Char} {name : String} :
    paramName? segment = some name ↔
      name ≠ "" ∧ (segment = ':' :: name.toList ∨ segment = '{' :: (name.toList ++ ['}'])) := by
  rw [paramName?, Option.map_eq_some_iff]
  constructor
  · rintro ⟨cs, hFound, rfl⟩
    obtain ⟨hName, hSome⟩ := Option.filter_eq_some_iff.mp hFound
    rw [String.toList_ofList]
    refine ⟨?_, segmentName?_eq_some.mp hName⟩
    rintro hEmpty
    simp [String.ofList_eq_empty_iff.mp hEmpty] at hSome
  · rintro ⟨hSome, hSegment⟩
    refine ⟨name.toList, ?_, String.ofList_toList⟩
    rw [Option.filter_eq_some_iff]
    exact ⟨segmentName?_eq_some.mpr hSegment, by simpa using hSome⟩

/-! ## Paths -/

theorem splitChars_bracePathChars (cs : List Char) :
    splitChars '/' (bracePathChars cs) = (splitChars '/' cs).map braceSegment := by
  apply Text.splitChars_joinChars
  · simpa using Text.splitChars_ne_nil '/' cs
  · intro piece hPiece
    obtain ⟨segment, hSegment, rfl⟩ := List.mem_map.mp hPiece
    exact slash_not_mem_braceSegment (Text.not_mem_of_mem_splitChars hSegment)

theorem splitChars_bracePath (p : String) :
    splitChars '/' (bracePath p).toList = (splitChars '/' p.toList).map braceSegment := by
  rw [bracePath, String.toList_ofList, splitChars_bracePathChars]

theorem bracePath_bracePath (p : String) : bracePath (bracePath p) = bracePath p := by
  have hTwice : braceSegment ∘ braceSegment = braceSegment := funext braceSegment_braceSegment
  rw [bracePath, bracePathChars, splitChars_bracePath, List.map_map, hTwice]
  rfl

theorem pathParams_eq (p : String) :
    pathParams p = (splitChars '/' p.toList).filterMap paramName? := by
  rw [pathParams, pathParamChars, List.filter_filterMap, List.map_filterMap]
  rfl

theorem pathParams_bracePath (p : String) : pathParams (bracePath p) = pathParams p := by
  have hKeeps : paramName? ∘ braceSegment = paramName? := by
    funext segment
    rw [Function.comp, paramName?, segmentName?_braceSegment, paramName?]
  rw [pathParams_eq, splitChars_bracePath, List.filterMap_map, hKeeps, pathParams_eq]

theorem mem_pathParams {p name : String} :
    name ∈ pathParams p ↔ name ≠ "" ∧
      (":" ++ name ∈ splitAt '/' p ∨ "\x7b" ++ name ++ "\x7d" ∈ splitAt '/' p) := by
  have hColon : (":" ++ name).toList = ':' :: name.toList := by simp
  have hBraces : ("\x7b" ++ name ++ "\x7d").toList = '{' :: (name.toList ++ ['}']) := by simp
  rw [pathParams_eq, List.mem_filterMap, Text.mem_splitAt, Text.mem_splitAt, hColon, hBraces]
  constructor
  · rintro ⟨segment, hSegment, hName⟩
    obtain ⟨hSome, rfl | rfl⟩ := paramName?_eq_some.mp hName
    · exact ⟨hSome, .inl hSegment⟩
    · exact ⟨hSome, .inr hSegment⟩
  · rintro ⟨hSome, hSegment | hSegment⟩
    · exact ⟨_, hSegment, paramName?_eq_some.mpr ⟨hSome, .inl rfl⟩⟩
    · exact ⟨_, hSegment, paramName?_eq_some.mpr ⟨hSome, .inr rfl⟩⟩

theorem colonParams_eq_pathParams {p : String} (hPlain : ∀ segment ∈ splitAt '/' p,
    ∀ inside, inside ≠ "" → segment ≠ "\x7b" ++ inside ++ "\x7d") :
    Build.colonParams p = pathParams p := by
  rw [Build.colonParams, pathParams_eq]
  refine List.filterMap_congr fun segment hSegment => ?_
  split
  · rename_i c cs
    refine (paramName?_eq_some.mpr ⟨?_, .inl ?_⟩).symm
    · simp
    · rw [String.toList_ofList]
  · rename_i hOther
    cases hName : paramName? segment with
    | none => rfl
    | some name =>
      -- a segment that is neither form has no name, and braces are excluded
      exfalso
      obtain ⟨hSome, rfl | rfl⟩ := paramName?_eq_some.mp hName
      · obtain ⟨c, cs, hChars⟩ := List.exists_cons_of_ne_nil (mt String.toList_eq_nil_iff.mp hSome)
        exact hOther c cs (by rw [hChars])
      · refine hPlain ("\x7b" ++ name ++ "\x7d") (Text.mem_splitAt.mpr ?_) name hSome rfl
        simpa using hSegment

/-! ## Conversion -/

/-- What a segment is converted to. -/
inductive Converts : String → String → Prop
  | param (name : String) (hName : name ≠ "") : Converts (":" ++ name) ("\x7b" ++ name ++ "\x7d")
  | other (segment : String) (hOther : ∀ name, name ≠ "" → segment ≠ ":" ++ name) :
      Converts segment segment

theorem converts_braceSegment (segment : List Char) :
    Converts (String.ofList segment) (String.ofList (braceSegment segment)) := by
  rcases braceSegment_cases segment with ⟨c, cs, rfl, hBrace⟩ | ⟨hOther, hSame⟩
  · have hColon : String.ofList (':' :: c :: cs) = ":" ++ String.ofList (c :: cs) := by
      rw [← String.toList_inj]
      simp
    have hBraces : String.ofList (braceSegment (':' :: c :: cs)) =
        "\x7b" ++ String.ofList (c :: cs) ++ "\x7d" := by
      rw [hBrace, ← String.toList_inj]
      simp
    rw [hColon, hBraces]
    exact .param _ (by simp)
  · rw [hSame]
    refine .other _ fun name hSome hColon => ?_
    obtain ⟨c, cs, hChars⟩ := List.exists_cons_of_ne_nil (mt String.toList_eq_nil_iff.mp hSome)
    refine hOther c cs ?_
    rw [← String.toList_ofList (l := segment), hColon, String.toList_append, hChars]
    rfl

theorem forall₂_converts (p : String) :
    List.Forall₂ Converts (splitAt '/' p) (splitAt '/' (bracePath p)) := by
  rw [splitAt, splitAt, splitChars_bracePath, List.map_map, List.forall₂_map_left_iff,
    List.forall₂_map_right_iff, List.forall₂_same]
  intro segment _
  exact converts_braceSegment segment

/-- The conversion to braces keeps the parameters of a path, and they are those that the colons
mark where no segment is in braces. -/
theorem bracePath_keeps_params (p : String) :
    pathParams (bracePath p) = pathParams p ∧
    bracePath (bracePath p) = bracePath p ∧
    List.Forall₂ Converts (splitAt '/' p) (splitAt '/' (bracePath p)) ∧
    (∀ name, name ∈ pathParams p ↔ name ≠ "" ∧
      (":" ++ name ∈ splitAt '/' p ∨ "\x7b" ++ name ++ "\x7d" ∈ splitAt '/' p)) ∧
    ((∀ segment ∈ splitAt '/' p, ∀ inside, inside ≠ "" → segment ≠ "\x7b" ++ inside ++ "\x7d") →
      Build.colonParams p = pathParams p ∧ pathParams p = pathParams (bracePath p)) := by
  refine ⟨pathParams_bracePath p, bracePath_bracePath p, forall₂_converts p,
    fun _ => mem_pathParams, fun hPlain => ?_⟩
  exact ⟨colonParams_eq_pathParams hPlain, (pathParams_bracePath p).symm⟩

/-- A colon without a name, a colon in a name, and braces that are not closed. -/
def lobby : String := "/teams/:team/:/\x7bopen/::seat"

theorem bracePath_keeps_params_lobby :
    (∀ segment ∈ splitAt '/' lobby, ∀ inside, inside ≠ "" → segment ≠ "\x7b" ++ inside ++ "\x7d") ∧
      bracePath lobby = "/teams/\x7bteam\x7d/:/\x7bopen/\x7b:seat\x7d" ∧
      Build.colonParams lobby = ["team", ":seat"] ∧
      pathParams (bracePath lobby) = ["team", ":seat"] := by
  have hEdges : (splitAt '/' lobby).all fun segment =>
      segment.toList.head? != some '{' || segment.toList.getLast? != some '}' := by decide
  have hPlain : ∀ segment ∈ splitAt '/' lobby, ∀ inside, inside ≠ "" →
      segment ≠ "\x7b" ++ inside ++ "\x7d" := by
    rintro segment hSegment inside - rfl
    have hEdge := List.all_eq_true.mp hEdges _ hSegment
    simp [List.getLast?_cons] at hEdge
  have hColons : Build.colonParams lobby = ["team", ":seat"] := by decide
  obtain ⟨hSame, hKept⟩ := (bracePath_keeps_params lobby).2.2.2.2 hPlain
  exact ⟨hPlain, by decide, hColons, (hSame.trans hKept).symm.trans hColons⟩

end ServiceCompiler.Plan
