import ServiceCompiler.Proofs.Build.Registry
import ServiceCompiler.Proofs.Schema.Proto
import ServiceCompiler.Schema.GraphQl

/-! # Closed GraphQL schemas

The object types of a schema are the records and, behind them, the root types of the operations.
Main statement: the types that are named are built in or defined, the resolvers stand under their
root types in the order of their declarations, and a type is defined twice exactly if a record has
the name of the scalar or of a root type. -/

namespace ServiceCompiler

/-- The operation of a resolver, and the names of its field and arguments. -/
abbrev Outline : Type := Operation × String × List String

def Surface.Resolver.outline (r : Surface.Resolver) : Outline :=
  (r.operation, r.field, r.params.map (·.name))

def Core.Resolver.outline (r : Core.Resolver) : Outline :=
  (r.operation, r.field, r.params.map (·.name))

def Surface.Item.resolver? : Surface.Item → Option Surface.Resolver
  | .resolver r => some r
  | _ => none

/-- The resolvers that a program declares for an operation. -/
def Surface.Program.outlines (p : Surface.Program) (op : Operation) : List Outline :=
  ((p.items.filterMap (·.resolver?)).map (·.outline)).filter (·.1 = op)

namespace Build

open Outcome

def Binding.resolver? : Binding → Option Core.Resolver
  | .resolver r => some r
  | _ => none

theorem outline_lowerResolver {r : Surface.Resolver} {found : Core.Resolver}
    (hLower : lowerResolver r = .ok found) : found.outline = r.outline := by
  simp only [lowerResolver, bind_eq_ok] at hLower
  obtain ⟨params, hParams, _, -, _, -, hFound⟩ := hLower
  have hNames : params.map (·.name) = r.params.map (·.name) := by
    refine map_of_mapM (fun f field hField => ?_) hParams
    simp only [lowerField, bind_eq_ok] at hField
    obtain ⟨_, -, hField⟩ := hField
    cases hField
    rfl
  cases hFound
  rw [Core.Resolver.outline, Surface.Resolver.outline, hNames]

theorem outline_lowerBinding {number : Nat} {item : Surface.Item} {found : Option Binding}
    (hLower : lowerBinding number item = .ok found) :
    (found.map fun b => (b.resolver?.map (·.outline)).toList).getD [] =
      (item.resolver?.map (·.outline)).toList := by
  cases item with
  | resolver r =>
    simp only [lowerBinding, bind_eq_ok] at hLower
    obtain ⟨_, hResolver, hFound⟩ := hLower
    cases hFound
    exact congrArg (fun outline => [outline]) (outline_lowerResolver hResolver)
  | route r | function f | cron j | event h | queue w | command c | rpcService s | rpcHandler h
    | constant c =>
    simp only [lowerBinding, bind_eq_ok] at hLower
    obtain ⟨_, -, hFound⟩ := hLower
    cases hFound
    rfl
  | _ =>
    cases hLower
    rfl

theorem outlines_of_build {p : Surface.Program} {b : Built} (hBuild : build p = .ok b) :
    b.service.resolvers.map (·.outline) = (p.items.filterMap (·.resolver?)).map (·.outline) := by
  obtain ⟨d, bs, -, hBindings, rfl⟩ := build_eq_ok.mp hBuild
  have hResolvers : (assemble (serviceName p) d bs).resolvers = bs.filterMap (·.resolver?) := rfl
  rw [hResolvers, List.map_filterMap, List.map_filterMap, List.filterMap_eq_flatMap_toList,
    List.filterMap_eq_flatMap_toList]
  exact flatMap_bindings outline_lowerBinding hBindings

end Build

end ServiceCompiler

namespace ServiceCompiler.Schema

open ServiceCompiler.Core (Ty Service rootType)

/-- The types that a schema need not define. -/
def gqlBuiltIns : List String := ["Int", "Float", "String", "Boolean"]

/-- The name that a line of a schema defines, without the brace behind it. -/
def definedName? (line : String) : Option String :=
  let keyword := line.toList.takeWhile (· != ' ')
  let rest := line.toList.drop (keyword.length + 1)
  if keyword = "scalar".toList then some (String.ofList rest)
  else if keyword = "type".toList then some (String.ofList (rest.take (rest.length - 2)))
  else none

/-- The text of a type has the name inside its brackets and before its marks. -/
def Names (text name : String) : Prop :=
  ∃ depth marks, text.toList = List.replicate depth '[' ++ name.toList ++ marks ∧
    ∀ c ∈ marks, c = ']' ∨ c = '!'

def definedNames (s : Service) : List String := "JSON" :: (gqlObjects s).map (·.name)

/-- The types in the positions of fields, arguments and results. -/
def referredTypes (s : Service) : List GqlType :=
  (gqlObjects s).flatMap fun o => o.fields.flatMap fun f => f.type :: f.args.map (·.2)

/-! ## Types -/

theorem names_render (t : GqlType) : Names t.render t.baseName := by
  induction t with
  | named name => exact ⟨0, [], by simp [GqlType.render, GqlType.baseName]⟩
  | list element ih =>
    obtain ⟨depth, marks, hText, hMarks⟩ := ih
    refine ⟨depth + 1, marks ++ [']'], ?_, ?_⟩
    · simp [GqlType.render, GqlType.baseName, toString, hText, List.replicate_succ]
    · simpa [or_imp, forall_and] using hMarks
  | required inner ih =>
    obtain ⟨depth, marks, hText, hMarks⟩ := ih
    refine ⟨depth, marks ++ ['!'], ?_, ?_⟩
    · simp [GqlType.render, GqlType.baseName, toString, hText]
    · simpa [or_imp, forall_and] using hMarks

variable (s : Service)

def Known (name : String) : Prop := name ∈ gqlBuiltIns ∨ name ∈ definedNames s

theorem known_json : Known s "JSON" := .inr List.mem_cons_self

theorem known_record {name : String} (hName : isDeclared s name) : Known s name := by
  obtain ⟨r, hr, rfl⟩ := List.mem_map.mp ((isDeclared_iff s).mp hName)
  refine .inr (List.mem_cons_of_mem _ ?_)
  rw [gqlObjects, List.map_append, List.map_map]
  exact List.mem_append_left _ (List.mem_map_of_mem hr)

theorem known_gqlType (t : Ty) : Known s (gqlType s t).baseName := by
  fun_induction gqlType s t with
  | case1 => exact .inl (by decide)
  | case2 => exact .inl (by decide)
  | case3 => exact .inl (by decide)
  | case4 => exact .inl (by decide)
  | case5 element ih => exact ih
  | case6 inner ih => exact ih
  | case7 result ih => exact ih
  | case8 name =>
    rw [GqlType.baseName]
    split
    · exact known_record s ‹_›
    · exact known_json s
  | _ => exact known_json s

theorem known_gqlFieldType (t : Ty) (required : Bool) :
    Known s (gqlFieldType s t required).baseName := by
  unfold gqlFieldType
  split
  · exact known_gqlType s t
  · exact known_gqlType s t

/-! ## Root types -/

/-- The fields of the root type of an operation; only that of queries may have no resolvers. -/
def rootFields (op : Operation) : List GqlField :=
  if s.resolversOf op = [] then [⟨placeholderField, [], .required (.named "String")⟩]
  else (s.resolversOf op).map (resolverField s)

def rootObject (op : Operation) : GqlObject := ⟨rootType op, rootFields s op⟩

theorem rootObject?_eq (op : Operation) :
    rootObject? s op =
      if op = .query || !(s.resolversOf op).isEmpty then some (rootObject s op) else none := by
  simp only [rootObject?, rootObject, rootFields]
  cases hResolvers : s.resolversOf op with
  | nil => cases op <;> rfl
  | cons r rs => simp

theorem gqlObjects_eq :
    gqlObjects s = s.records.map (recordObject s) ++ (rootOperations s).map (rootObject s) := by
  rw [gqlObjects, ← List.filterMap_eq_map (f := rootObject s), rootOperations,
    List.filterMap_filter]
  exact congrArg _ (List.filterMap_congr fun op _ => rootObject?_eq s op)

theorem map_name_gqlObjects :
    (gqlObjects s).map (·.name) =
      s.records.map (·.name) ++ (rootOperations s).map rootType := by
  rw [gqlObjects_eq, List.map_append, List.map_map, List.map_map]
  rfl

theorem nodup_rootTypes : ((rootOperations s).map rootType).Nodup := by
  have hAll : (Operation.all.map rootType).Nodup := by decide
  exact hAll.sublist (List.filter_sublist.map rootType)

theorem json_not_rootType (op : Operation) : "JSON" ≠ rootType op := by
  cases op <;> decide

/-- The scalar and the root types are apart, so only records can repeat a name. -/
theorem nodup_definedNames (hRecords : (s.records.map (·.name)).Nodup) :
    (definedNames s).Nodup ↔
      ∀ r ∈ s.records, r.name ≠ "JSON" ∧ ∀ op ∈ rootOperations s, r.name ≠ rootType op := by
  have hJson : "JSON" ∉ (rootOperations s).map rootType := by
    intro hMem
    obtain ⟨op, -, hSame⟩ := List.mem_map.mp hMem
    exact json_not_rootType op hSame.symm
  rw [definedNames, map_name_gqlObjects, List.nodup_cons, List.nodup_append, List.mem_append,
    not_or]
  constructor
  · rintro ⟨⟨hScalar, -⟩, -, -, hApart⟩ r hr
    have hName : r.name ∈ s.records.map (·.name) := List.mem_map_of_mem hr
    refine ⟨fun hSame => hScalar (hSame ▸ hName), fun op hOp => ?_⟩
    exact hApart _ hName _ (List.mem_map_of_mem hOp)
  · intro hApart
    refine ⟨⟨fun hMem => ?_, hJson⟩, hRecords, nodup_rootTypes s, fun name hName root hRoot => ?_⟩
    · obtain ⟨r, hr, hSame⟩ := List.mem_map.mp hMem
      exact (hApart r hr).1 hSame
    · obtain ⟨r, hr, rfl⟩ := List.mem_map.mp hName
      obtain ⟨op, hOp, rfl⟩ := List.mem_map.mp hRoot
      exact (hApart r hr).2 op hOp

theorem known_referredTypes {t : GqlType} (ht : t ∈ referredTypes s) : Known s t.baseName := by
  rw [referredTypes, gqlObjects_eq] at ht
  obtain ⟨o, ho, ht⟩ := List.mem_flatMap.mp ht
  obtain ⟨f, hf, ht⟩ := List.mem_flatMap.mp ht
  -- an object is a record or a root of resolvers
  rcases List.mem_append.mp ho with hRecord | hRoot
  · obtain ⟨r, -, rfl⟩ := List.mem_map.mp hRecord
    obtain ⟨field, -, rfl⟩ := List.mem_map.mp hf
    obtain rfl := List.mem_singleton.mp ht
    exact known_gqlFieldType s field.type field.required
  · obtain ⟨op, -, rfl⟩ := List.mem_map.mp hRoot
    simp only [rootObject, rootFields] at hf
    split at hf
    · obtain rfl := List.mem_singleton.mp hf
      obtain rfl := List.mem_singleton.mp ht
      exact .inl (by decide)
    · obtain ⟨r, -, rfl⟩ := List.mem_map.mp hf
      rcases List.mem_cons.mp ht with rfl | hArg
      · cases hResult : r.result with
        | none => simpa [resolverField, hResult, GqlType.baseName] using known_json s
        | some result => simpa [resolverField, hResult] using known_gqlType s result
      · simp only [resolverField, List.map_map] at hArg
        obtain ⟨param, -, rfl⟩ := List.mem_map.mp hArg
        exact known_gqlFieldType s param.type param.required

/-! ## Lines -/

theorem definedName?_line (f : GqlField) : definedName? f.line = none := by
  -- A field is indented, so its line has no keyword.
  have hBlank : f.line.toList.takeWhile (· != ' ') = [] := by
    simp [GqlField.line, toString]
  simp [definedName?, hBlank]

theorem definedName?_head (name : String) :
    definedName? ("type " ++ name ++ " \x7b") = some name := by
  simp [definedName?]

theorem filterMap_lines (o : GqlObject) : o.lines.filterMap definedName? = [o.name] := by
  have hFields : (o.fields.map GqlField.line).filterMap definedName? = [] := by
    rw [List.filterMap_map, List.filterMap_eq_nil_iff]
    exact fun f _ => definedName?_line f
  have hBlank : definedName? "" = none := rfl
  have hEnd : definedName? "\x7d" = none := rfl
  simp [GqlObject.lines, List.filterMap_append, definedName?_head, hFields, hBlank, hEnd]

theorem filterMap_gqlLines : (gqlLines s).filterMap definedName? = definedNames s := by
  have hScalar : definedName? "scalar JSON" = some "JSON" := rfl
  rw [gqlLines, List.filterMap_cons_some hScalar, List.filterMap_flatMap, definedNames]
  simp only [filterMap_lines]
  exact congrArg _ List.map_eq_flatMap.symm

/-! ## Schemas of programs -/

def GqlField.outline (op : Operation) (f : GqlField) : Outline := (op, f.name, f.args.map (·.1))

/-- The root type of an operation, with a field for each resolver of a program in turn. -/
structure RootOf (p : Surface.Program) (op : Operation) (o : GqlObject) : Prop where
  name : o.name = rootType op
  fields : o.fields.map (·.outline op) =
    if p.outlines op = [] then [(op, placeholderField, [])] else p.outlines op

variable {p : Surface.Program} {b : Build.Built}

theorem outlines_resolversOf (hBuild : Build.build p = .ok b) (op : Operation) :
    (b.service.resolversOf op).map (·.outline) = p.outlines op := by
  rw [Surface.Program.outlines, ← Build.outlines_of_build hBuild, List.filter_map]
  rfl

theorem rootOf_rootObject (hBuild : Build.build p = .ok b) (op : Operation) :
    RootOf p op (rootObject b.service op) where
  name := rfl
  fields := by
    rw [← outlines_resolversOf hBuild op, rootObject, rootFields]
    simp only [List.map_eq_nil_iff]
    split
    · rfl
    · rw [List.map_map]
      refine List.map_congr_left fun r hr => ?_
      have hOperation : r.operation = op := by simpa using (List.mem_filter.mp hr).2
      simp [GqlField.outline, resolverField, Core.Resolver.outline, hOperation]

theorem rootOperations_of_build (hBuild : Build.build p = .ok b) :
    rootOperations b.service = Operation.all.filter fun op => op = .query ∨ p.outlines op ≠ [] := by
  refine List.filter_congr fun op _ => ?_
  rw [← outlines_resolversOf hBuild op, Bool.eq_iff_iff]
  simp

theorem schema_of_build (hBuild : Build.build p = .ok b) :
    let s := b.service
    graphQl s = Text.join "\n" (gqlLines s) ++ "\n" ∧
    (gqlLines s).filterMap definedName? = definedNames s ∧
    ((definedNames s).Nodup ↔
      ∀ r ∈ s.records, r.name ≠ "JSON" ∧ ∀ op ∈ rootOperations s, r.name ≠ rootType op) ∧
    (∀ t ∈ referredTypes s, ∃ name, Names t.render name ∧ Known s name) ∧
    gqlObjects s = s.records.map (recordObject s) ++ (rootOperations s).map (rootObject s) ∧
    (∀ op, RootOf p op (rootObject s op)) ∧
    rootOperations s = Operation.all.filter fun op => op = .query ∨ p.outlines op ≠ [] := by
  intro s
  refine ⟨rfl, filterMap_gqlLines s, nodup_definedNames s (Build.nodup_records hBuild),
    fun t ht => ?_, gqlObjects_eq s, rootOf_rootObject hBuild, rootOperations_of_build hBuild⟩
  exact ⟨t.baseName, names_render t, known_referredTypes s ht⟩

/-- Resolvers for two operations in turn, over a record. -/
def forum : Surface.Program where
  items := [
    .typeDecl ⟨"Post", [], [], [⟨"tags", some (.array .string), true, none, []⟩], []⟩,
    .resolver ⟨.query, "posts", [], some (.array (.named "Post")), none, [], []⟩,
    .resolver ⟨.mutation, "add", [⟨"post", some (.named "Post"), true, none, []⟩], none, none, [],
      []⟩,
    .resolver ⟨.query, "post", [⟨"id", some .int, true, none, []⟩], some (.named "Post"), none, [],
      []⟩]

theorem schema_of_build_forum : ∃ b, Build.build forum = .ok b ∧ (definedNames b.service).Nodup ∧
    rootOperations b.service = [.query, .mutation] ∧
    (rootObject b.service .query).fields.map (·.outline .query) =
      [(.query, "posts", []), (.query, "post", ["id"])] ∧
    (rootObject b.service .mutation).fields.map (·.outline .mutation) =
      [(.mutation, "add", ["post"])] := by
  obtain ⟨b, hBuild⟩ : ∃ b, Build.build forum = .ok b := ⟨_, rfl⟩
  obtain ⟨-, -, hNames, -, -, hRoots, hOperations⟩ := schema_of_build hBuild
  refine ⟨b, hBuild, hNames.mpr ?_, hOperations, (hRoots .query).fields, (hRoots .mutation).fields⟩
  cases hBuild
  decide

/-- Records that are called like the type of queries and like the scalar. -/
def glossary : Surface.Program where
  items := [
    .typeDecl ⟨"Query", [], [], [⟨"id", some .int, true, none, []⟩], []⟩,
    .typeDecl ⟨"JSON", [], [], [⟨"id", some .int, true, none, []⟩], []⟩]

theorem schema_repeats_glossary : ∃ b, Build.build glossary = .ok b ∧
    (gqlLines b.service).filterMap definedName? = ["JSON", "Query", "JSON", "Query"] ∧
    ¬ (definedNames b.service).Nodup := by
  obtain ⟨b, hBuild⟩ : ∃ b, Build.build glossary = .ok b := ⟨_, rfl⟩
  have hDefined : definedNames b.service = ["JSON", "Query", "JSON", "Query"] := by
    cases hBuild
    rfl
  refine ⟨b, hBuild, (filterMap_gqlLines b.service).trans hDefined, ?_⟩
  rw [hDefined]
  decide

end ServiceCompiler.Schema
