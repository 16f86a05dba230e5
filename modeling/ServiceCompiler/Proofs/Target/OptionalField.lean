import ServiceCompiler.Proofs.Build.TypeForm
import ServiceCompiler.Proofs.Source.Emission
import ServiceCompiler.Proofs.Text.Token
import ServiceCompiler.Schema.GraphQl
import ServiceCompiler.Target.PythonRecord
import ServiceCompiler.Target.RustRecord
import ServiceCompiler.Target.TypeScriptRecord

/-! # Optional fields in all outputs

A field may be absent because it is not required or because its type is optional. The targets and
the schema find out in different ways and write it in different ways. Main statement: in a service
that was built, they all write the type that a reader of the field sees, with one layer of absence
where that type is optional and none elsewhere. Rust boxes a type that begins with the name of its
record, which is told from the spelling: also another type that is spelled like the record. -/

namespace ServiceCompiler

open ServiceCompiler.Core (Ty Field Record Service)
open Source (Emit Line)
open Source.Emit (nest line)

/-! ## What a reader sees -/

namespace Core

theorem Field.mayBeAbsent_eq (f : Field) : f.mayBeAbsent = f.effectiveType.isOptional := by
  unfold mayBeAbsent effectiveType
  cases hRequired : f.required with
  | true => rfl
  | false => cases f.type <;> rfl

theorem Field.presentType_eq (f : Field) : f.presentType = f.effectiveType.present := by
  unfold presentType effectiveType
  cases hRequired : f.required with
  | true => rfl
  | false => cases f.type <;> rfl

theorem Ty.eq_optional {t : Ty} (h : t.isOptional = true) : t = .optional t.present := by
  cases t <;> first | rfl | cases h

theorem Ty.present_eq_self {t : Ty} (h : ¬ t.isOptional = true) : t.present = t := by
  cases t <;> first | rfl | exact absurd rfl h

/-- What is not optional twice over is not optional when it is present. -/
theorem Ty.Proper.isOptional_present {t : Ty} (h : t.Proper) : t.present.isOptional = false := by
  cases t with
  | optional inner =>
    cases inner with
    | optional _ => exact h.elim
    | _ => rfl
  | _ => rfl

end Core

/-! ## Fields in the lines of their record -/

variable {r : Record} {f : Field}

namespace Python

/-- The decorators of a field behind its line. -/
def remarks (f : Field) : String :=
  if f.decorators.isEmpty then ""
  else "  # " ++ Text.join " " (f.decorators.map fun d => s!"@{d.name}")

theorem fieldType_eq (f : Field) : fieldType f = typeText f.effectiveType := by
  rw [fieldType, Field.mayBeAbsent_eq, Field.presentType_eq]
  by_cases hOptional : f.effectiveType.isOptional = true
  · rw [if_pos hOptional, Ty.eq_optional hOptional]
    rfl
  · rw [if_neg hOptional, Ty.present_eq_self hOptional]

theorem fieldText_eq (f : Field) (default : Option String) :
    fieldText f default =
      Param.text ⟨f.name, some (typeText f.effectiveType), default⟩ ++ remarks f := by
  rw [← fieldType_eq]
  rfl

/-- The line of a field stands behind the lines that its default value needs. -/
theorem lines_fieldLine (f : Field) (n : Nat) : ∃ before default,
    (fieldLine f n).lines = before ++ [.code 0 (fieldText f default)] := by
  unfold fieldLine
  cases f.default with
  | some value => exact ⟨(expr false value n).lines, some (expr false value n).value, rfl⟩
  | none => exact ⟨[], if f.mayBeAbsent then some "None" else none, rfl⟩

theorem fieldLine_within (hf : f ∈ r.fields) : (nest (fieldLine f)).Within (recordLines r) := by
  have hFields := Source.Emit.within_each hf fieldLine
  refine Source.Emit.Within.after _ fun _ => Source.Emit.Within.after _ fun _ => ?_
  exact (Source.Emit.Within.after _ fun _ => hFields.before _).nest

end Python

namespace Rust

/-- The spelling of a type names the record, alone or in front of arguments. -/
def Names (r : Record) (t : Ty) : Prop :=
  typeText t = r.name ∨ (r.name ++ "<").toList <+: (typeText t).toList

instance (r : Record) (t : Ty) : Decidable (Names r t) := inferInstanceAs (Decidable (_ ∨ _))

/-- The name in front of the arguments of a generic type. -/
def genericHead (name : String) (count : Nat) : String :=
  if count = 1 ∧ name ∈ ["List", "Array"] then "Vec"
  else if count = 2 ∧ name ∈ ["Map", "Dict", "Record"] then "HashMap"
  else name

/-- The name that the spelling of a type begins with. -/
def headName : Ty → String
  | .int => "i64"
  | .float => "f64"
  | .string => "String"
  | .bool => "bool"
  | .any | .union _ | .function _ _ => "Value"
  | .array _ => "Vec"
  | .optional _ => "Option"
  | .future result => headName result
  | .generic name args => genericHead name args.length
  | .named name | .provider name => name

/-- A text is a name, alone or in front of arguments. -/
def Heads (name text : String) : Prop :=
  ∃ rest, text.toList = name.toList ++ rest ∧ Text.Ends (· != '<') rest

theorem heads_self (name : String) : Heads name name := ⟨[], (List.append_nil _).symm, nofun⟩

theorem heads_append {name opening : String} (first : String)
    (h : opening = name ++ ("<" ++ first)) (args : String) : Heads name (opening ++ args) := by
  refine ⟨'<' :: (first.toList ++ args.toList), ?_, Text.ends_cons (by decide) _⟩
  rw [h, String.toList_append, String.toList_append, String.toList_append, List.append_assoc]
  rfl

theorem heads_genericText (name : String) (texts : List String) :
    Heads (genericHead name texts.length) (genericText name texts) := by
  unfold genericText
  split
  case h_6 => exact heads_self _
  case h_7 hNone hList hArray hMap hDict hRecord =>
    have hHead : genericHead name texts.length = name := by
      unfold genericHead
      rw [if_neg, if_neg]
      · rintro ⟨hCount, hName⟩
        obtain ⟨key, value, rfl⟩ := List.length_eq_two.mp hCount
        simp only [List.mem_cons, List.not_mem_nil, or_false] at hName
        rcases hName with rfl | rfl | rfl
        · exact hMap key value rfl rfl
        · exact hDict key value rfl rfl
        · exact hRecord key value rfl rfl
      · rintro ⟨hCount, hName⟩
        obtain ⟨element, rfl⟩ := List.length_eq_one_iff.mp hCount
        simp only [List.mem_cons, List.not_mem_nil, or_false] at hName
        rcases hName with rfl | rfl
        · exact hList element rfl rfl
        · exact hArray element rfl rfl
    rw [hHead, String.append_assoc]
    exact heads_append "" rfl _
  case h_1 | h_2 =>
    rw [String.append_assoc]
    exact heads_append "" rfl _
  all_goals
    rw [String.append_assoc]
    exact heads_append "String, " rfl _

theorem length_typeTexts (ts : List Ty) : (typeTexts ts).length = ts.length := by
  induction ts with
  | nil => rfl
  | cons t ts ih => rw [typeTexts, List.length_cons, List.length_cons, ih]

theorem heads_typeText (t : Ty) : Heads (headName t) (typeText t) := by
  match t with
  | .int | .float | .string | .bool | .any | .union _ | .function _ _ | .named _ | .provider _ =>
    rw [typeText, headName]
    exact heads_self _
  | .array _ | .optional _ =>
    rw [typeText, headName, String.append_assoc]
    exact heads_append "" rfl _
  | .future result =>
    rw [typeText, headName]
    exact heads_typeText result
  | .generic name args =>
    rw [typeText, headName, ← length_typeTexts]
    exact heads_genericText name _

/-- What stands in front of arguments. -/
def front (text : String) : List Char := text.toList.takeWhile (· != '<')

theorem Heads.front_eq {name text : String} (h : Heads name text) : front text = front name := by
  obtain ⟨rest, hText, hRest⟩ := h
  rw [front, hText, Text.takeWhile_append_ends hRest, front]

theorem front_eq_self {text : String} (h : '<' ∉ text.toList) : front text = text.toList := by
  rw [front, List.takeWhile_eq_self_iff]
  intro c hC
  rw [bne_iff_ne]
  rintro rfl
  exact h hC

theorem heads_of_front {name text : String} (h : front text = name.toList) : Heads name text := by
  refine ⟨text.toList.dropWhile (· != '<'), ?_, ?_⟩
  · rw [← h, front, List.takeWhile_append_dropWhile]
  · intro c hC
    have hStop := List.head?_dropWhile_not (· != '<') text.toList
    rwa [hC] at hStop

theorem names_iff_heads {t : Ty} : Names r t ↔ Heads r.name (typeText t) := by
  constructor
  · rintro (hSame | ⟨more, hMore⟩)
    · rw [hSame]
      exact heads_self _
    · refine ⟨'<' :: more, ?_, Text.ends_cons (by decide) more⟩
      rw [← hMore, String.toList_append, List.append_assoc]
      rfl
  · rintro ⟨rest, hText, hRest⟩
    cases rest with
    | nil => exact .inl (String.toList_inj.mp (by rw [hText, List.append_nil]))
    | cons c more =>
      obtain rfl : c = '<' := by simpa using hRest c rfl
      refine .inr ⟨more, ?_⟩
      rw [hText, String.toList_append, List.append_assoc]
      rfl

/-- A record whose name has no arguments is named by the types that begin with its name. -/
theorem names_iff (h : '<' ∉ r.name.toList) {t : Ty} :
    Names r t ↔ front (headName t) = r.name.toList := by
  rw [← (heads_typeText t).front_eq, names_iff_heads]
  constructor
  · intro hHeads
    rw [hHeads.front_eq, front_eq_self h]
  · exact heads_of_front

theorem names_named (r : Record) : Names r (.named r.name) := .inl rfl

theorem names_generic {args : List Ty} (h : genericHead r.name args.length = r.name) :
    Names r (.generic r.name args) := by
  have hHeads := heads_typeText (.generic r.name args)
  rw [headName, h] at hHeads
  exact names_iff_heads.mpr hHeads

/-- The type of a field when its value is present; what names the record is boxed. -/
def boxed (r : Record) (present : Ty) : String :=
  if Names r present then s!"Box<{typeText present}>" else typeText present

/-- The type of a field of a record of which a reader sees the type `seen`. -/
def fieldType (r : Record) (seen : Ty) : String :=
  if seen.isOptional then s!"Option<{boxed r seen.present}>" else boxed r seen

theorem fieldType_of_not_names {t : Ty} (h : ¬ Names r t.present) : fieldType r t = typeText t := by
  by_cases hOptional : t.isOptional = true
  · rw [fieldType, if_pos hOptional, boxed, if_neg h]
    conv => rhs; rw [Ty.eq_optional hOptional]
    rfl
  · rw [Ty.present_eq_self hOptional] at h
    rw [fieldType, if_neg hOptional, boxed, if_neg h]

theorem presentText_eq (r : Record) (f : Field) : presentText r f = boxed r f.presentType := by
  have hNames : (typeText f.presentType == r.name ||
      (typeText f.presentType).startsWith s!"{r.name}<") = true ↔ Names r f.presentType := by
    rw [Bool.or_eq_true, beq_iff_eq, String.startsWith_string_iff]
    rfl
  exact if_congr hNames rfl rfl

/-- The line of a field stands behind its attributes. -/
theorem fieldLines_eq (r : Record) (f : Field) : ∃ attributes,
    fieldLines r f = attributes ++ [s!"pub {ident f.name}: {fieldType r f.effectiveType},"] := by
  unfold fieldLines fieldType
  rw [presentText_eq, Field.mayBeAbsent_eq, Field.presentType_eq]
  by_cases hOptional : f.effectiveType.isOptional = true
  · have hOption : ": Option<" = ": " ++ "Option<" := rfl
    refine ⟨["#[serde(default, skip_serializing_if = \"Option::is_none\")]"], ?_⟩
    simp only [hOptional, if_true, List.cons_append, List.nil_append, toString, hOption,
      String.append_assoc]
    rfl
  · refine ⟨if f.default.isSome then ["#[serde(default)]"] else [], ?_⟩
    simp only [if_neg hOptional, Ty.present_eq_self hOptional]

theorem fieldLines_within (env : Env) (hf : f ∈ r.fields) :
    (nest (Source.Emit.lines (fieldLines r f))).Within (recordLines env r) := by
  have hFields := Source.Emit.within_each hf fun f => Source.Emit.lines (fieldLines r f)
  exact Source.Emit.Within.after _ fun _ => (hFields.braces _ _).before _

end Rust

namespace TypeScript

/-- What stands behind the name of a field. -/
def fieldMark (isClass isOptional : Bool) : String :=
  if isOptional then "?" else if isClass then "!" else ""

theorem fieldText_eq (isClass : Bool) (f : Field) :
    fieldText isClass f = f.name ++ fieldMark isClass f.effectiveType.isOptional ++ ": " ++
      typeText f.effectiveType.present ++ ";" := by
  unfold fieldText fieldMark
  rw [Field.mayBeAbsent_eq, Field.presentType_eq]
  cases f.effectiveType.isOptional <;> cases isClass <;> simp [String.append_assoc, toString]

theorem fieldText_within (hf : f ∈ r.fields) :
    (nest (line (fieldText (!r.methods.isEmpty) f))).Within (recordLines r) := by
  have hFields := Source.Emit.within_each hf fun f => line (fieldText (!r.methods.isEmpty) f)
  exact (hFields.before _).braces _ _

end TypeScript

namespace Schema

theorem gqlType_present (s : Service) (t : Ty) : gqlType s t = gqlType s t.present := by
  cases t <;> simp [gqlType, Ty.present]

theorem render_gqlFieldType (s : Service) (f : Field) :
    (gqlFieldType s f.type f.required).render = (gqlType s f.effectiveType.present).render ++
      if f.effectiveType.isOptional then "" else "!" := by
  have hAbsent : f.effectiveType.isOptional = (!f.required || f.type.isOptional) :=
    f.mayBeAbsent_eq.symm
  rw [← Field.presentType_eq, Field.presentType, ← gqlType_present, hAbsent, gqlFieldType]
  cases f.required <;> cases f.type.isOptional <;> simp [GqlType.render, toString]

end Schema

/-! ## Agreement -/

/-- How the outputs write a field of a record, if a reader sees the type `seen`, which is `present`
where there is a value. -/
structure WrittenAs (s : Service) (r : Record) (f : Field) (seen present : Ty) : Prop where
  once : present.isOptional = false
  optional : (f.presentType, f.mayBeAbsent) = (present, seen.isOptional)
  python : (nest (Python.fieldLine f)).Within (Python.recordLines r) ∧
    ∀ n, ∃ before default, (Python.fieldLine f n).lines = before ++
      [.code 0
        (Python.Param.text ⟨f.name, some (Python.typeText seen), default⟩ ++ Python.remarks f)]
  rust : (∀ env, (nest (Source.Emit.lines (Rust.fieldLines r f))).Within (Rust.recordLines env r)) ∧
    ∃ attributes, Rust.fieldLines r f =
      attributes ++ [s!"pub {Rust.ident f.name}: {Rust.fieldType r seen},"]
  named : present = .named r.name ∨
    (∃ args, present = .generic r.name args ∧ Rust.genericHead r.name args.length = r.name) →
      Rust.Names r present
  headed : '<' ∉ r.name.toList →
    (Rust.Names r present ↔ Rust.front (Rust.headName present) = r.name.toList)
  unboxed : ¬ Rust.Names r present → Rust.fieldType r seen = Rust.typeText seen
  typeScript : (nest (line (f.name ++ TypeScript.fieldMark (!r.methods.isEmpty) seen.isOptional ++
    ": " ++ TypeScript.typeText present ++ ";"))).Within (TypeScript.recordLines r)
  graphQl : (Schema.gqlFieldType s f.type f.required).render =
    (Schema.gqlType s present).render ++ if seen.isOptional then "" else "!"

end ServiceCompiler

namespace ServiceCompiler.Build

open ServiceCompiler.Core (Record Field)

/-- Every output writes the fields of the records of a built service as a reader sees them. -/
theorem fields_of_build {p : Surface.Program} {b : Built} (hBuild : build p = .ok b) {r : Record}
    (hr : r ∈ b.service.records) {f : Field} (hf : f ∈ r.fields) :
    WrittenAs b.service r f f.effectiveType f.effectiveType.present := by
  obtain ⟨d, bs, hDeclarations, -, rfl⟩ := build_eq_ok.mp hBuild
  have hDeclared : DeclaredNodes d := DeclaredNodes.nothing.run hDeclarations
  have hNode : .field f ∈ r.nodes := List.mem_append_left _ (List.mem_map_of_mem hf)
  have hArises : Arises (.field f) := hDeclared.records _ (List.mem_flatMap.mpr ⟨r, hr, hNode⟩)
  refine
    { once := hArises.effectiveType.isOptional_present
      optional := by rw [f.presentType_eq, f.mayBeAbsent_eq]
      python := ⟨Python.fieldLine_within hf, fun n => ?_⟩
      rust := ⟨fun env => Rust.fieldLines_within env hf, Rust.fieldLines_eq r f⟩
      named := ?_
      headed := fun hName => Rust.names_iff hName
      unboxed := Rust.fieldType_of_not_names
      typeScript := ?_
      graphQl := Schema.render_gqlFieldType _ f }
  · obtain ⟨before, default, hLines⟩ := Python.lines_fieldLine f n
    exact ⟨before, default, by rw [hLines, Python.fieldText_eq]⟩
  · rintro (hNamed | ⟨args, hGeneric, hHead⟩)
    · exact hNamed ▸ Rust.names_named r
    · exact hGeneric ▸ Rust.names_generic hHead
  · rw [← TypeScript.fieldText_eq]
    exact TypeScript.fieldText_within hf

/-- A tree whose nodes have a left child that is optional twice over and need no label. -/
def grove : Surface.Program where
  items := [
    .typeDecl ⟨"Node", [], [],
      [⟨"left", some (.optional (.optional (.named "Node"))), false, none, []⟩,
        ⟨"label", some .string, false, none, []⟩,
        ⟨"size", some .int, true, none, []⟩], []⟩]

theorem fields_of_build_grove : ∃ b, build grove = .ok b ∧
    ∃ r ∈ b.service.records, ∃ left ∈ r.fields, ∃ label ∈ r.fields, ∃ size ∈ r.fields,
      WrittenAs b.service r left (.optional (.named "Node")) (.named "Node") ∧
      Rust.fieldType r (.optional (.named "Node")) = "Option<Box<Node>>" ∧
      WrittenAs b.service r label (.optional .string) .string ∧
      WrittenAs b.service r size .int .int := by
  obtain ⟨b, hBuild⟩ : ∃ b, build grove = .ok b := ⟨_, rfl⟩
  refine ⟨b, hBuild, ?_⟩
  have hFields := @fields_of_build _ _ hBuild
  cases hBuild
  exact ⟨_, .head _, _, .head _, _, .tail _ (.head _), _, .tail _ (.tail _ (.head _)),
    hFields (.head _) (.head _), by decide, hFields (.head _) (.tail _ (.head _)),
    hFields (.head _) (.tail _ (.tail _ (.head _)))⟩

/-- Records that share their names with types of the target and of the language. -/
def namesakes : Surface.Program where
  items := [
    .typeDecl ⟨"String", [], [], [⟨"text", some .string, true, none, []⟩], []⟩,
    .typeDecl ⟨"List", [], [],
      [⟨"items", some (.generic (.named "List") [.int]), true, none, []⟩], []⟩]

/-- A text in a record called `String` is boxed, and a list in a record called `List` is not. -/
theorem fieldLines_namesakes : ∃ b, build namesakes = .ok b ∧
    (∃ r ∈ b.service.records, ∃ f ∈ r.fields, r.name = "String" ∧ f.effectiveType = .string ∧
      Rust.fieldLines r f = ["pub text: Box<String>,"]) ∧
    ∃ r ∈ b.service.records, ∃ f ∈ r.fields, r.name = "List" ∧
      f.effectiveType = .generic "List" [.int] ∧
        Rust.fieldLines r f = ["pub items: Vec<i64>,"] := by
  obtain ⟨b, hBuild⟩ : ∃ b, build namesakes = .ok b := ⟨_, rfl⟩
  refine ⟨b, hBuild, ?_⟩
  cases hBuild
  exact ⟨⟨_, .head _, _, .head _, rfl, rfl, by decide +kernel⟩,
    _, .tail _ (.head _), _, .head _, rfl, rfl, by decide +kernel⟩

end ServiceCompiler.Build
