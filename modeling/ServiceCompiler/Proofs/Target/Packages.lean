import Mathlib.Data.List.Nodup
import ServiceCompiler.Proofs.Build.Features
import ServiceCompiler.Proofs.Distinct
import ServiceCompiler.Target.PythonProgram
import ServiceCompiler.Target.RustProgram
import ServiceCompiler.Target.TypeScriptProgram

/-! # Packages of combined programs

The packages of a generated program depend on the features of its service alone. Main statement: the
features of two programs in one are those of the two, and so are the packages for each target, none
of them listed twice. -/

namespace ServiceCompiler.Plan

variable {α : Type}

/-- What the features of a set choose from a table. -/
def FeatureSet.choose (f : FeatureSet) (table : List (Feature × List α)) : List α :=
  table.flatMap fun row => if f.has row.1 then row.2 else []

theorem FeatureSet.mem_choose {f : FeatureSet} {table : List (Feature × List α)} {a : α} :
    a ∈ f.choose table ↔ ∃ row ∈ table, f.has row.1 ∧ a ∈ row.2 := by
  simp only [choose, List.mem_flatMap]
  refine exists_congr fun row => and_congr_right fun _ => ?_
  split <;> simp [*]

theorem FeatureSet.choose_sublist (f : FeatureSet) (table : List (Feature × List α)) :
    (f.choose table).Sublist (table.flatMap (·.2)) := by
  induction table with
  | nil => exact .slnil
  | cons row table ih =>
    rw [choose, List.flatMap_cons, List.flatMap_cons]
    refine List.Sublist.append ?_ ih
    split
    · exact .refl _
    · exact List.nil_sublist _

/-- A list of the entries of two others, with one entry for each name. -/
structure Unites (name : α → String) (whole left right : List α) : Prop where
  entries : ∀ a, a ∈ whole ↔ a ∈ left ∨ a ∈ right
  names : (whole.map name).Nodup

variable {name : α → String} {always : List α} {table : List (Feature × List α)}
  (f g : FeatureSet)

theorem mem_choose_union {a : α} :
    a ∈ always ++ (f ∪ g).choose table ↔
      a ∈ always ++ f.choose table ∨ a ∈ always ++ g.choose table := by
  simp only [List.mem_append, FeatureSet.mem_choose, FeatureSet.has_union, Bool.or_eq_true]
  constructor
  · rintro (hAlways | ⟨row, hRow, hLeft | hRight, ha⟩)
    · exact .inl (.inl hAlways)
    · exact .inl (.inr ⟨row, hRow, hLeft, ha⟩)
    · exact .inr (.inr ⟨row, hRow, hRight, ha⟩)
  · rintro ((hAlways | ⟨row, hRow, hLeft, ha⟩) | hAlways | ⟨row, hRow, hRight, ha⟩)
    · exact .inl hAlways
    · exact .inr ⟨row, hRow, .inl hLeft, ha⟩
    · exact .inl hAlways
    · exact .inr ⟨row, hRow, .inr hRight, ha⟩

/-- Of a table that lists each package once, no features choose a package twice. -/
theorem unites_choose (hNames : ((always ++ table.flatMap (·.2)).map name).Nodup) :
    Unites name (always ++ (f ∪ g).choose table) (always ++ f.choose table)
      (always ++ g.choose table) where
  entries a := mem_choose_union f g
  names := by
    have hSublist := ((FeatureSet.choose_sublist (f ∪ g) table).append_left always).map name
    exact hNames.sublist hSublist

/-- Where a table lists packages more than once, the first of each name is kept. -/
theorem unites_firsts
    (hNames : ∀ a ∈ always ++ table.flatMap (·.2), ∀ b ∈ always ++ table.flatMap (·.2),
      name a = name b → a = b) :
    Unites name (firsts name (always ++ (f ∪ g).choose table))
      (firsts name (always ++ f.choose table)) (firsts name (always ++ g.choose table)) where
  entries a := by
    have hMem (h : FeatureSet) :
        a ∈ firsts name (always ++ h.choose table) ↔ a ∈ always ++ h.choose table := by
      have hListed := ((FeatureSet.choose_sublist h table).append_left always).subset
      exact mem_firsts_iff fun b hB c hC => hNames b (hListed hB) c (hListed hC)
    rw [hMem, hMem, hMem]
    exact mem_choose_union f g
  names := by
    rw [map_firsts]
    exact nodup_distinct _

end ServiceCompiler.Plan

namespace ServiceCompiler

open Plan (Feature FeatureSet Unites unites_choose unites_firsts)

namespace Python

/-- The package that a requirement is about, in front of its version. -/
def packageOf (requirement : String) : String :=
  String.ofList (requirement.toList.takeWhile (· != '>'))

def requirementTable : List (Feature × List String) :=
  [(.database, ["sqlalchemy>=2.0.0", "databases>=0.9.0"]),
    (.redis, ["redis>=5.0.0"]),
    (.mongo, ["motor>=3.3.0", "pymongo>=4.6.0"]),
    (.llm, ["anthropic>=0.40.0"]),
    (.cron, ["apscheduler>=3.10.0"]),
    (.queues, ["celery>=5.3.0"]),
    (.graphql, ["strawberry-graphql>=0.220.0"]),
    (.rpc, ["grpcio>=1.60.0", "grpcio-tools>=1.60.0"]),
    (.socket, ["websockets>=12.0"])]

theorem requirements_eq (f : FeatureSet) :
    requirements f =
      ["fastapi>=0.100.0", "uvicorn>=0.23.0", "pydantic>=2.0.0"] ++ f.choose requirementTable := by
  simp only [requirements, FeatureSet.choose, requirementTable, List.flatMap_cons,
    List.flatMap_nil, List.append_assoc, List.append_nil]

theorem unites_requirements (f g : FeatureSet) :
    Unites packageOf (requirements (f ∪ g)) (requirements f) (requirements g) := by
  rw [requirements_eq, requirements_eq, requirements_eq]
  exact unites_choose f g (by decide +kernel)

end Python

namespace TypeScript

def dependencyTable : List (Feature × List Package) :=
  [(.database, [⟨"pg", "^8.11.0"⟩]),
    (.redis, [⟨"redis", "^4.6.0"⟩]),
    (.mongo, [⟨"mongodb", "^6.3.0"⟩]),
    (.llm, [⟨"@anthropic-ai/sdk", "^0.30.0"⟩]),
    (.cron, [⟨"node-cron", "^3.0.0"⟩]),
    (.queues, [⟨"bullmq", "^5.1.0"⟩]),
    (.graphql, [⟨"@apollo/server", "^4.10.0"⟩, ⟨"graphql", "^16.8.0"⟩]),
    (.rpc, [⟨"@grpc/grpc-js", "^1.10.0"⟩, ⟨"@grpc/proto-loader", "^0.7.10"⟩]),
    (.socket, [⟨"ws", "^8.16.0"⟩])]

def devDependencyTable : List (Feature × List Package) :=
  [(.cron, [⟨"@types/node-cron", "^3.0.0"⟩]), (.socket, [⟨"@types/ws", "^8.5.0"⟩])]

theorem dependencies_eq (f : FeatureSet) :
    dependencies f = [⟨"express", "^4.18.0"⟩] ++ f.choose dependencyTable := by
  simp only [dependencies, FeatureSet.choose, dependencyTable, List.flatMap_cons,
    List.flatMap_nil, List.append_assoc, List.append_nil]

theorem devDependencies_eq (f : FeatureSet) :
    devDependencies f =
      [⟨"typescript", "^5.0.0"⟩, ⟨"ts-node", "^10.0.0"⟩, ⟨"@types/node", "^20.0.0"⟩,
        ⟨"@types/express", "^4.17.0"⟩] ++ f.choose devDependencyTable := by
  simp only [devDependencies, FeatureSet.choose, devDependencyTable, List.flatMap_cons,
    List.flatMap_nil, List.append_assoc, List.append_nil]

theorem unites_dependencies (f g : FeatureSet) :
    Unites Package.name (dependencies (f ∪ g)) (dependencies f) (dependencies g) := by
  rw [dependencies_eq, dependencies_eq, dependencies_eq]
  exact unites_choose f g (by decide +kernel)

theorem unites_devDependencies (f g : FeatureSet) :
    Unites Package.name (devDependencies (f ∪ g)) (devDependencies f) (devDependencies g) := by
  rw [devDependencies_eq, devDependencies_eq, devDependencies_eq]
  exact unites_choose f g (by decide +kernel)

end TypeScript

namespace Rust

def crateTable : List (Feature × List Crate) :=
  [(.database, [.featured "sqlx" "0.7" ["runtime-tokio", "postgres"]]),
    (.redis, [.plain "redis" "0.25"]),
    (.mongo, [.plain "mongodb" "2.8"]),
    (.llm, [.featured "reqwest" "0.12" ["json"]]),
    (.cron, [.plain "tokio-cron-scheduler" "0.10"]),
    (.graphql, [.plain "async-graphql" "7", .plain "async-graphql-axum" "7"]),
    (.subscriptions, [.plain "futures" "0.3"]),
    (.rpc, [.plain "tonic" "0.11", .plain "prost" "0.12"]),
    (.socket, [.plain "futures" "0.3", .featured "uuid" "1" ["v4"]])]

theorem crates_eq (f : FeatureSet) :
    crates f =
      [.featured "axum" "0.7" ["ws", "macros"], .featured "tokio" "1" ["full"],
        .featured "serde" "1" ["derive"], .plain "serde_json" "1", .plain "tracing" "0.1",
        .plain "tracing-subscriber" "0.3"] ++ f.choose crateTable := by
  simp only [crates, FeatureSet.choose, crateTable, List.flatMap_cons, List.flatMap_nil,
    List.append_assoc, List.append_nil]

theorem unites_dependencies (f g : FeatureSet) :
    Unites Crate.name (dependencies (f ∪ g)) (dependencies f) (dependencies g) := by
  rw [dependencies, dependencies, dependencies, crates_eq, crates_eq, crates_eq]
  -- Subscriptions and sockets both bring `futures`, with one specification.
  exact unites_firsts f g (by decide +kernel)

end Rust

namespace Build

variable {p q : Surface.Program} {a b c : Built}

theorem packages_of_append (hLeft : build p = .ok a) (hRight : build q = .ok b)
    (hWhole : build ⟨p.items ++ q.items⟩ = .ok c) :
    let whole := FeatureSet.of c.service
    let left := FeatureSet.of a.service
    let right := FeatureSet.of b.service
    whole = left ∪ right ∧
      Unites Python.packageOf (Python.requirements whole) (Python.requirements left)
        (Python.requirements right) ∧
      Unites TypeScript.Package.name (TypeScript.dependencies whole)
        (TypeScript.dependencies left) (TypeScript.dependencies right) ∧
      Unites TypeScript.Package.name (TypeScript.devDependencies whole)
        (TypeScript.devDependencies left) (TypeScript.devDependencies right) ∧
      Unites Rust.Crate.name (Rust.dependencies whole) (Rust.dependencies left)
        (Rust.dependencies right) := by
  intro whole left right
  have hUnion : whole = left ∪ right := by
    calc whole = .ofList ((p.items ++ q.items).flatMap (·.features)) := features_of_items hWhole
      _ = .ofList (p.items.flatMap (·.features)) ∪ .ofList (q.items.flatMap (·.features)) := by
        rw [List.flatMap_append, ofList_append]
      _ = left ∪ right := by rw [← features_of_items hLeft, ← features_of_items hRight]
  refine ⟨hUnion, ?_⟩
  rw [hUnion]
  exact ⟨Python.unites_requirements left right, TypeScript.unites_dependencies left right,
    TypeScript.unites_devDependencies left right, Rust.unites_dependencies left right⟩

def prices : Surface.Program where
  items := [
    .resolver ⟨.subscription, "prices", [], some .float, none,
      [⟨"cache", some .redis⟩], []⟩]

def chat : Surface.Program where
  items := [
    .socket ⟨"/chat", [⟨.connect, []⟩]⟩,
    .cron ⟨"expire", "0 * * * *", none, 0, [⟨"cache", some .redis⟩], []⟩]

/-- Both programs need the crates for streams and for Redis, and together they list each once. -/
theorem packages_of_append_chat : ∃ a b c, build prices = .ok a ∧ build chat = .ok b ∧
    build ⟨prices.items ++ chat.items⟩ = .ok c ∧
    FeatureSet.of c.service = .of a.service ∪ .of b.service ∧
    ((Rust.dependencies (.of c.service)).map (·.name)).Nodup ∧
    ∀ crate ∈ [Rust.Crate.plain "futures" "0.3", .plain "redis" "0.25"],
      crate ∈ Rust.dependencies (.of a.service) ∧ crate ∈ Rust.dependencies (.of b.service) ∧
        crate ∈ Rust.dependencies (.of c.service) := by
  obtain ⟨a, hLeft⟩ : ∃ a, build prices = .ok a := ⟨_, rfl⟩
  obtain ⟨b, hRight⟩ : ∃ b, build chat = .ok b := ⟨_, rfl⟩
  obtain ⟨c, hWhole⟩ : ∃ c, build ⟨prices.items ++ chat.items⟩ = .ok c := ⟨_, rfl⟩
  obtain ⟨hUnion, -, -, -, hCrates⟩ := packages_of_append hLeft hRight hWhole
  refine ⟨a, b, c, hLeft, hRight, hWhole, hUnion, hCrates.names, fun crate hCrate => ?_⟩
  have hListed : crate ∈ Rust.dependencies (.of a.service) ∧
      crate ∈ Rust.dependencies (.of b.service) := by
    cases hLeft
    cases hRight
    revert crate
    decide +kernel
  exact ⟨hListed.1, hListed.2, (hCrates.entries crate).mpr (.inl hListed.1)⟩

end Build

end ServiceCompiler
