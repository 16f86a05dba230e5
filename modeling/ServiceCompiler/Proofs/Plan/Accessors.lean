import ServiceCompiler.Plan.Names
import ServiceCompiler.Proofs.Build.Registry
import ServiceCompiler.Proofs.Text.Camel
import ServiceCompiler.Proofs.Text.Words

/-! # Accessors of dependencies

The registry tells dependencies apart by their types, generated programs by the names of their
instances. Main statement: two dependencies share an instance, and the function that gives access to
it, exactly if their types have the same words but for letter case, where a built-in type counts as
the name of its instance; in camel case they also share the function if no more than a `_` that no
letter follows tells their instances apart. -/

namespace ServiceCompiler.Plan

open ServiceCompiler.Core (StandardProvider instanceName)
open Text (isSnake lettered lowerWords raised)

/-- Types whose instances have one name. -/
inductive Homonym : String → String → Prop
  | words {s t : String} (hs : StandardProvider.ofTypeName? s = none)
    (ht : StandardProvider.ofTypeName? t = none) (h : lowerWords s = lowerWords t) : Homonym s t
  | builtIn {standard : StandardProvider} {t : String} (ht : StandardProvider.ofTypeName? t = none)
    (h : lowerWords t = [standard.instanceName.toList]) : Homonym standard.typeName t
  | symm {s t : String} (h : Homonym s t) : Homonym t s

theorem instanceName_standard (standard : StandardProvider) :
    instanceName standard.typeName = standard.instanceName := by
  rw [instanceName, StandardProvider.ofTypeName?_eq_some.mpr rfl]

theorem instanceName_custom {type : String} (h : StandardProvider.ofTypeName? type = none) :
    instanceName type = Text.snakeCase type := by
  rw [instanceName, h]

theorem snakeCase_eq_instanceName {type : String} {standard : StandardProvider} :
    Text.snakeCase type = standard.instanceName ↔
      lowerWords type = [standard.instanceName.toList] := by
  apply Text.snakeCase_eq_word
  cases standard <;> decide

theorem Homonym.instanceName_eq {s t : String} (h : Homonym s t) : instanceName s = instanceName t := by
  induction h with
  | words hs ht h =>
    rw [instanceName_custom hs, instanceName_custom ht]
    exact Text.snakeCase_inj.mpr h
  | builtIn ht h =>
    rw [instanceName_standard, instanceName_custom ht]
    exact (snakeCase_eq_instanceName.mpr h).symm
  | symm _ ih => exact ih.symm

theorem instanceName_eq_iff {s t : String} (hTypes : s ≠ t) :
    instanceName s = instanceName t ↔ Homonym s t := by
  refine ⟨fun hSame => ?_, Homonym.instanceName_eq⟩
  cases hs : StandardProvider.ofTypeName? s with
  | none =>
    rw [instanceName_custom hs] at hSame
    cases ht : StandardProvider.ofTypeName? t with
    | none =>
      rw [instanceName_custom ht] at hSame
      exact .words hs ht (Text.snakeCase_inj.mp hSame)
    | some standard =>
      obtain rfl := StandardProvider.ofTypeName?_eq_some.mp ht
      rw [instanceName_standard] at hSame
      exact (Homonym.builtIn hs (snakeCase_eq_instanceName.mp hSame)).symm
  | some standard =>
    obtain rfl := StandardProvider.ofTypeName?_eq_some.mp hs
    rw [instanceName_standard] at hSame
    cases ht : StandardProvider.ofTypeName? t with
    | none =>
      rw [instanceName_custom ht] at hSame
      exact .builtIn ht (snakeCase_eq_instanceName.mp hSame.symm)
    | some other =>
      obtain rfl := StandardProvider.ofTypeName?_eq_some.mp ht
      rw [instanceName_standard] at hSame
      -- the built-in providers have distinct instance names
      have hStandard : standard = other := by
        revert hSame
        cases standard <;> cases other <;> decide
      exact absurd (congrArg _ hStandard) hTypes

theorem accessorName_inj {s t : String} :
    accessorName s = accessorName t ↔ instanceName s = instanceName t := by
  rw [accessorName, accessorName, ← String.toList_inj, ← String.toList_inj, String.toList_append,
    String.toList_append, List.append_cancel_left_eq]

/-! ## Camel case -/

theorem words_get (s : String) : Text.words ("get_" ++ s) = ['g', 'e', 't'] :: Text.words s := by
  have hRuns : Text.alphanumericRuns ('g' :: 'e' :: 't' :: '_' :: s.toList) =
      ['g', 'e', 't'] :: Text.alphanumericRuns s.toList := rfl
  rw [Text.words, String.toList_append]
  exact congrArg (List.flatMap (Text.cutWords .none [])) hRuns

theorem camelAccessorName_eq (type : String) :
    camelAccessorName type = "get" ++ Text.upperCamelCase (instanceName type) := by
  rw [camelAccessorName, accessorName, Text.lowerCamelCase, words_get]
  dsimp only
  rw [String.ofList_append]
  rfl

theorem camelAccessorName_inj {s t : String} :
    camelAccessorName s = camelAccessorName t ↔
      Text.upperCamelCase (instanceName s) = Text.upperCamelCase (instanceName t) := by
  rw [camelAccessorName_eq, camelAccessorName_eq, ← String.toList_inj, ← String.toList_inj,
    String.toList_append, String.toList_append, List.append_cancel_left_eq]

/-- The accessor of an ASCII type is snake-case text. -/
theorem isSnake_accessorName {type : String} (h : ∀ c ∈ type.toList, c.toNat < 128) :
    ∀ c ∈ (accessorName type).toList, isSnake c := by
  have hStart : "get_".toList.all isSnake := by decide
  rw [accessorName, String.toList_append, List.forall_mem_append]
  refine ⟨List.all_eq_true.mp hStart, ?_⟩
  cases hType : StandardProvider.ofTypeName? type with
  | none =>
    rw [instanceName_custom hType]
    exact fun c hc => Text.isSnake_snakeCase h hc
  | some standard =>
    obtain rfl := StandardProvider.ofTypeName?_eq_some.mp hType
    have hName : standard.instanceName.toList.all isSnake := by
      cases standard <;> decide
    rw [instanceName_standard]
    exact List.all_eq_true.mp hName

theorem lettered_accessorName_inj {s t : String} (hs : ∀ c ∈ s.toList, c.toNat < 128)
    (ht : ∀ c ∈ t.toList, c.toNat < 128) :
    camelAccessorName s = camelAccessorName t ↔
      lettered (accessorName s).toList = lettered (accessorName t).toList := by
  have hCamel {type : String} (h : ∀ c ∈ type.toList, c.toNat < 128) :
      camelAccessorName type = String.ofList (raised false (accessorName type).toList) := by
    have hChars : (accessorName type).toList = 'g' :: 'e' :: 't' :: '_' :: (instanceName type).toList := by
      rw [accessorName, String.toList_append]
      rfl
    have hSnake := isSnake_accessorName h
    rw [hChars] at hSnake ⊢
    rw [← Text.lowerCamelCase_of_ne hSnake (by decide), ← hChars, String.ofList_toList]
    rfl
  rw [hCamel hs, hCamel ht, String.ofList_inj]
  exact Text.raised_inj (isSnake_accessorName hs) (isSnake_accessorName ht)

/-! ## Registered dependencies -/

theorem name_of_mem_registry {contracts : Build.Contracts} {bs : List Build.Binding}
    {x : Core.Provider} (hx : x ∈ Build.registry contracts bs) : x.name = instanceName x.type := by
  obtain ⟨type, -, rfl⟩ := Build.mem_registry.mp hx
  rfl

/-- Dependencies of different types share an instance and its accessor exactly if their types are
homonyms. In camel case the accessors are the same if the capitalised words of the instances are; for
ASCII types, if the accessors differ in nothing but a `_` that no letter follows. -/
theorem accessors_of_build {p : Surface.Program} {b : Build.Built} (hBuild : Build.build p = .ok b)
    {x y : Core.Provider} (hx : x ∈ b.service.providers) (hy : y ∈ b.service.providers)
    (hTypes : x.type ≠ y.type) :
    (x.name = y.name ↔ Homonym x.type y.type) ∧
    (accessorName x.type = accessorName y.type ↔ Homonym x.type y.type) ∧
    (camelAccessorName x.type = camelAccessorName y.type ↔
      Text.upperCamelCase x.name = Text.upperCamelCase y.name) ∧
    ((∀ c ∈ x.type.toList ++ y.type.toList, c.toNat < 128) →
      (camelAccessorName x.type = camelAccessorName y.type ↔
        lettered (accessorName x.type).toList = lettered (accessorName y.type).toList)) := by
  obtain ⟨d, bs, -, -, rfl⟩ := Build.build_eq_ok.mp hBuild
  have hHomonym := instanceName_eq_iff hTypes
  rw [name_of_mem_registry hx, name_of_mem_registry hy]
  refine ⟨hHomonym, accessorName_inj.trans hHomonym, camelAccessorName_inj, fun hAscii => ?_⟩
  obtain ⟨hs, ht⟩ := List.forall_mem_append.mp hAscii
  exact lettered_accessorName_inj hs ht

/-- A dependency named as the instance of a built-in one is, and two that differ in a `_` in front
of a digit. -/
def studio : Surface.Program where
  items := [
    .event ⟨"upload", true,
      [⟨"db", some .database⟩, ⟨"cache", some (.named "Db")⟩, ⟨"images", some (.named "Store1")⟩,
        ⟨"films", some (.named "Store_1")⟩], []⟩]

theorem providers_studio {b : Build.Built} (hBuild : Build.build studio = .ok b) :
    b.service.providers = ["Database", "Db", "Store1", "Store_1"].map fun type => .of type [] := by
  cases hBuild
  rfl

theorem accessors_of_build_studio : ∃ b x y, Build.build studio = .ok b ∧
    x ∈ b.service.providers ∧ y ∈ b.service.providers ∧ x.type = "Store1" ∧ y.type = "Store_1" ∧
    ¬ Homonym x.type y.type ∧ accessorName x.type ≠ accessorName y.type ∧
    camelAccessorName x.type = camelAccessorName y.type := by
  obtain ⟨b, hBuild⟩ : ∃ b, Build.build studio = .ok b := ⟨_, rfl⟩
  have hx : Core.Provider.of "Store1" [] ∈ b.service.providers := by
    simp [providers_studio hBuild]
  have hy : Core.Provider.of "Store_1" [] ∈ b.service.providers := by
    simp [providers_studio hBuild]
  obtain ⟨hName, hAccessor, -, hCamel⟩ := accessors_of_build hBuild hx hy (by decide)
  have hApart : ¬ Homonym "Store1" "Store_1" := fun hHomonym =>
    absurd (hName.mpr hHomonym) (by decide)
  have hAscii : ("Store1".toList ++ "Store_1".toList).all (·.toNat < 128) := by decide
  refine ⟨b, _, _, hBuild, hx, hy, rfl, rfl, hApart, hAccessor.not.mpr hApart, (hCamel ?_).mpr ?_⟩
  · exact fun c hc => of_decide_eq_true (List.all_eq_true.mp hAscii c hc)
  · decide

theorem accessors_meet_studio : ∃ b, Build.build studio = .ok b ∧
    (b.service.providers.map fun x =>
      (x.type, x.name, accessorName x.type, camelAccessorName x.type)) =
      [("Database", "db", "get_db", "getDb"), ("Db", "db", "get_db", "getDb"),
        ("Store1", "store1", "get_store1", "getStore1"),
        ("Store_1", "store_1", "get_store_1", "getStore1")] ∧
    ¬ ∀ x ∈ b.service.providers, ∀ y ∈ b.service.providers, x.type ≠ y.type →
      x.name ≠ y.name ∧ accessorName x.type ≠ accessorName y.type ∧
        camelAccessorName x.type ≠ camelAccessorName y.type := by
  obtain ⟨b, hBuild⟩ : ∃ b, Build.build studio = .ok b := ⟨_, rfl⟩
  have hProviders := providers_studio hBuild
  refine ⟨b, hBuild, ?_, fun hApart => ?_⟩
  · rw [hProviders]
    decide
  · have hx : Core.Provider.of "Database" [] ∈ b.service.providers := by simp [hProviders]
    have hy : Core.Provider.of "Db" [] ∈ b.service.providers := by simp [hProviders]
    exact (hApart _ hx _ hy (by decide)).1 (by decide)

end ServiceCompiler.Plan
