import Mathlib.Data.List.Nodup
import ServiceCompiler.Proofs.CommandLine.Writing

/-! # Output files

The programs of a build are written at the same time. Main statement: each of them is for a target
of its own, writes to files of its own and stays in its part of the output directory, whatever the
service is called; and the name of a package can stand in a quoted text. -/

namespace ServiceCompiler

open ServiceCompiler.Core (Service)

/-! ## Targets -/

theorem pairwise_distinct {α : Type} [DecidableEq α] (as : List α) :
    (distinct as).Pairwise fun a b => as.idxOf a < as.idxOf b := by
  induction as with
  | nil => exact .nil
  | cons a as ih =>
    have hLater : ∀ b ∈ (distinct as).filter (· ≠ a), (a :: as).idxOf b = as.idxOf b + 1 := by
      intro b hb
      have hOther : b ≠ a := by simpa using (List.mem_filter.mp hb).2
      simp [hOther.symm]
    rw [distinct, List.pairwise_cons]
    constructor
    · intro b hb
      rw [hLater b hb, List.idxOf_cons_self]
      exact Nat.succ_pos _
    · refine (ih.filter _).imp_of_mem fun hb hc hBefore => ?_
      rw [hLater _ hb, hLater _ hc]
      exact Nat.succ_lt_succ hBefore

/-- Targets as they are requested, each where it is mentioned first; all if none is. -/
structure FirstMentions (requested targets : List Target) : Prop where
  nodup : targets.Nodup
  all : requested = [] → targets = Target.all
  mem : requested ≠ [] → ∀ t, t ∈ targets ↔ t ∈ requested
  order : requested ≠ [] → targets.Pairwise fun t u => requested.idxOf t < requested.idxOf u

theorem firstMentions_buildTargets (requested : List Target) :
    FirstMentions requested (CommandLine.buildTargets requested) := by
  unfold CommandLine.buildTargets
  by_cases hNone : requested = []
  · subst hNone
    exact ⟨by decide, fun _ => rfl, fun h => absurd rfl h, fun h => absurd rfl h⟩
  · rw [if_neg (by simpa using hNone)]
    exact ⟨nodup_distinct _, fun h => absurd h hNone, fun _ _ => mem_distinct,
      fun _ => pairwise_distinct _⟩

/-! ## Paths -/

/-- The paths that do not depend on the service. -/
def fixedPaths : Target → List String
  | .python => ["main.py", "requirements.txt"]
  | .typeScript => ["src/app.ts", "package.json", "tsconfig.json"]
  | .rust => ["src/main.rs", "Cargo.toml", "rustfmt.toml"]

section Paths

variable (s : Service) (o : Options) (t : Target)

theorem target_generate : (generate s o t).target = t := by
  cases t <;> rfl

theorem map_target_generateAll (targets : List Target) :
    (generateAll s o targets).map (·.target) = targets := by
  rw [generateAll, List.map_map]
  exact List.map_id'' (target_generate s o) targets

theorem map_path_files :
    (generate s o t).files.map (·.path) = fixedPaths t ++ (protoFiles s).map (·.path) := by
  cases t <;> rfl

theorem slash_not_mem_snakeCase (name : String) : '/' ∉ (Text.snakeCase name).toList := by
  intro hSlash
  rcases Text.mem_snakeCase hSlash with hWord | hMark
  · exact hWord.ne (by decide) (by decide) rfl
  · exact absurd hMark (by decide)

theorem splitAt_protoPath :
    Text.splitAt '/' (Schema.protoPath s) = ["proto", Text.snakeCase s.name ++ ".proto"] := by
  have hPath : Schema.protoPath s = "proto" ++ "/" ++ (Text.snakeCase s.name ++ ".proto") := by
    rw [Schema.protoPath, String.append_assoc]
    rfl
  have hSlash : '/' ∉ (Text.snakeCase s.name ++ ".proto").toList := by
    simpa using slash_not_mem_snakeCase s.name
  have hLast : Text.splitAt '/' (Text.snakeCase s.name ++ ".proto") =
      [Text.snakeCase s.name ++ ".proto"] := by
    rw [Text.splitAt, Text.splitChars_of_not_mem hSlash, List.map_singleton, String.ofList_toList]
  rw [hPath, CommandLine.splitAt_slash, hLast]
  rfl

theorem mem_map_protoFiles {path : String} (h : path ∈ (protoFiles s).map (·.path)) :
    path = Schema.protoPath s := by
  unfold protoFiles at h
  split at h
  · cases h
  · exact List.mem_singleton.mp h

theorem proper_of_mem_files {f : GeneratedFile} (hf : f ∈ (generate s o t).files) :
    ∀ name ∈ Text.splitAt '/' f.path, CommandLine.ProperName name := by
  have hPath : f.path ∈ (generate s o t).files.map (·.path) := List.mem_map_of_mem hf
  rw [map_path_files] at hPath
  rcases List.mem_append.mp hPath with hFixed | hProto
  · have hAll : ∀ path ∈ fixedPaths t, ∀ name ∈ Text.splitAt '/' path,
        CommandLine.ProperName name := by
      cases t <;> decide
    exact hAll f.path hFixed
  · rw [mem_map_protoFiles s hProto, splitAt_protoPath]
    refine List.forall_mem_cons.mpr ⟨by decide, List.forall_mem_singleton.mpr ?_⟩
    have hLong : 6 ≤ (Text.snakeCase s.name ++ ".proto").length := by
      rw [String.length_append]
      exact Nat.le_add_left 6 _
    refine ⟨?_, ?_, ?_⟩ <;> intro hShort <;> rw [hShort] at hLong <;>
      exact absurd hLong (by decide)

theorem nodup_paths : ((generate s o t).files.map (·.path)).Nodup := by
  -- No fixed path leads through the directory of the definition file.
  have hFixed : ∀ path ∈ fixedPaths t, (Text.splitAt '/' path).head? ≠ some "proto" := by
    cases t <;> decide
  rw [map_path_files, List.nodup_append]
  refine ⟨by cases t <;> decide, ?_, ?_⟩
  · unfold protoFiles
    split <;> simp
  · rintro path hPath _ hProto rfl
    rw [mem_map_protoFiles s hProto] at hPath
    exact hFixed _ hPath (by rw [splitAt_protoPath]; rfl)

theorem nodup_files {targets : List Target} (hTargets : targets.Nodup) :
    ((generateAll s o targets).flatMap fun p => p.files.map fun f => (p.target, f.path)).Nodup := by
  rw [generateAll, List.flatMap_map, List.nodup_flatMap]
  constructor
  · intro t _
    have hPairs : ((generate s o t).files.map fun f => ((generate s o t).target, f.path)) =
        ((generate s o t).files.map (·.path)).map (Prod.mk (generate s o t).target) := by
      rw [List.map_map]
      rfl
    rw [hPairs]
    exact (nodup_paths s o t).map fun _ _ hSame => (Prod.mk.inj hSame).2
  · refine hTargets.imp fun {t u} hApart => ?_
    rintro ⟨_, _⟩ hFirst hSecond
    obtain ⟨f, -, hFirst⟩ := List.mem_map.mp hFirst
    obtain ⟨g, -, hSecond⟩ := List.mem_map.mp hSecond
    have hSame := (Prod.mk.inj (hFirst.trans hSecond.symm)).1
    rw [target_generate, target_generate] at hSame
    exact hApart hSame

end Paths

/-! ## Package names -/

/-- The quotes, the backslash and the characters that end a line. -/
def breakingCodes : List Nat :=
  [0x22, 0x27, 0x5c, 0x0a, 0x0b, 0x0c, 0x0d, 0x85, 0x2028, 0x2029]

/-- A manifest that gives its package a name which needs no escapes. -/
structure PackageNamed (manifest name : String) : Prop where
  line : ∃ rest, manifest = "[package]\nname = \"" ++ name ++ "\"\n" ++ rest
  nonempty : name ≠ ""
  first : ∀ c ∈ name.toList.head?, c.isDigit = false
  plain : ∀ c ∈ name.toList, c.toNat ∉ breakingCodes

theorem unbroken_of_inWord {c : Char} (hc : Text.InWord c ∨ c = '-') : c.toNat ∉ breakingCodes := by
  have hCodes : ∀ n ∈ breakingCodes, ¬ (Text.InWord (Char.ofNat n) ∨ Char.ofNat n = '-') := by
    unfold Text.InWord
    decide
  intro hBreak
  refine hCodes c.toNat hBreak ?_
  rwa [Char.ofNat_toNat]

section Package

variable (s : Service)

theorem mem_packageName {c : Char} (hc : c ∈ (Rust.packageName s).toList) :
    Text.InWord c ∨ c = '-' := by
  have hOwn : ∀ c ∈ "glyph-".toList, Text.InWord c ∨ c = '-' := by
    have hAll : "glyph-".toList.all fun c => c.isAlphanum || c == '-' := by decide
    intro c hc
    have hPlain := List.all_eq_true.mp hAll c hc
    simp only [Bool.or_eq_true, beq_iff_eq] at hPlain
    exact hPlain.imp_left .inl
  unfold Rust.packageName at hc
  dsimp only at hc
  split at hc
  · exact hOwn c (List.mem_append_left "-".toList hc)
  · split at hc
    · rw [String.toList_append] at hc
      rcases List.mem_append.mp hc with hOwnPart | hName
      · exact hOwn c hOwnPart
      · exact Text.mem_kebabCase hName
    · exact Text.mem_kebabCase hc

theorem head_packageName :
    ∃ c rest, (Rust.packageName s).toList = c :: rest ∧ c.isDigit = false := by
  unfold Rust.packageName
  dsimp only
  split
  · exact ⟨'g', _, rfl, rfl⟩
  · rename_i c rest hChars
    split
    · exact ⟨'g', _, String.toList_append, rfl⟩
    · rename_i hDigit
      exact ⟨c, rest, hChars, by simpa using hDigit⟩

theorem packageNamed_manifest : PackageNamed (Rust.manifest s) (Rust.packageName s) := by
  obtain ⟨c, rest, hChars, hDigit⟩ := head_packageName s
  refine ⟨?_, ?_, ?_, fun c hc => unbroken_of_inWord (mem_packageName s hc)⟩
  · obtain ⟨next, more, hLines⟩ : ∃ next more, Rust.manifest s = Text.join "\n"
        ("[package]" :: ("name = \"" ++ Rust.packageName s ++ "\"") :: next :: more) ++ "\n" :=
      ⟨_, _, rfl⟩
    refine ⟨Text.join "\n" (next :: more) ++ "\n", ?_⟩
    rw [hLines, Text.join_cons_cons, Text.join_cons_cons, ← String.toList_inj]
    simp
  · intro hEmpty
    rw [hEmpty] at hChars
    cases hChars
  · intro first hFirst
    rw [hChars] at hFirst
    cases hFirst
    exact hDigit

end Package

namespace CommandLine

theorem writesBelow_writeProgram {out : String} (hOut : out ≠ "") (home : Location) (s : Service)
    (o : Options) (t : Target) :
    WritesBelow home (place home out ++ [t.name])
      (writeProgram Session.host out (generate s o t)) := by
  have hName : Text.splitAt '/' t.name = [t.name] := by cases t <;> rfl
  have hProper : ∀ name ∈ Text.splitAt '/' t.name, ProperName name := by cases t <;> decide
  have hRoot : place home (programRoot out t) = place home out ++ [t.name] := by
    rw [programRoot, place_below home hOut hProper, hName]
  have hFull : programRoot out t ≠ "" := below_ne_empty hOut
  refine WritesBelow.forM fun f hf => writesBelow_writeFile ?_
  rw [target_generate, place_below home hFull (proper_of_mem_files s o t hf), hRoot]
  exact List.prefix_append _ _

theorem outputs_apart (s : Service) (o : Options) (requested : List Target) :
    let targets := buildTargets requested
    let programs := generateAll s o targets
    FirstMentions requested targets ∧ programs.map (·.target) = targets ∧
    (programs.flatMap fun p => p.files.map fun f => (p.target, f.path)).Nodup ∧
    (∀ p ∈ programs, ∀ f ∈ p.files,
      f.path.startsWith "/" = false ∧ ".." ∉ Text.splitAt '/' f.path) ∧
    (∀ p ∈ programs, ∀ home, ∀ out ≠ "",
      WritesBelow home (place home out ++ [p.target.name]) (writeProgram Session.host out p)) ∧
    ∀ p ∈ programs, p.target = .rust → p.manifest.path = "Cargo.toml" ∧
      PackageNamed p.manifest.contents (Rust.packageName s) := by
  intro targets programs
  have hTargets := firstMentions_buildTargets requested
  have hPrograms : ∀ p ∈ programs, ∃ t, p = generate s o t := by
    intro p hp
    obtain ⟨t, -, rfl⟩ := List.mem_map.mp hp
    exact ⟨t, rfl⟩
  refine ⟨hTargets, map_target_generateAll s o targets, nodup_files s o hTargets.nodup, ?_, ?_, ?_⟩
  · intro p hp f hf
    obtain ⟨t, rfl⟩ := hPrograms p hp
    have hNames := proper_of_mem_files s o t hf
    exact ⟨relative_of_proper hNames, fun hUp => (hNames ".." hUp).2.2 rfl⟩
  · intro p hp home out hOut
    obtain ⟨t, rfl⟩ := hPrograms p hp
    rw [target_generate]
    exact writesBelow_writeProgram hOut home s o t
  · intro p hp hRust
    obtain ⟨t, rfl⟩ := hPrograms p hp
    rw [target_generate] at hRust
    subst hRust
    exact ⟨rfl, packageNamed_manifest s⟩

/-- A service with remote calls, whose name would lead out of a directory and out of quotes. -/
def lives : Service := { Service.empty "../9 \"lives\"\n" with rpc := [⟨"Cat", [], []⟩] }

theorem outputs_apart_lives :
    let programs := generateAll lives ⟨none, none⟩ (buildTargets [.rust, .python, .rust])
    programs.map (·.target) = [.rust, .python] ∧
    (programs.flatMap fun p => p.files.map fun f => (p.target, f.path)) =
      [(.rust, "src/main.rs"), (.rust, "Cargo.toml"), (.rust, "rustfmt.toml"),
        (.rust, "proto/9_lives.proto"), (.python, "main.py"), (.python, "requirements.txt"),
        (.python, "proto/9_lives.proto")] ∧
    (∀ home, WritesBelow home (place home "dist" ++ ["rust"])
      (writeProgram Session.host "dist" (generate lives ⟨none, none⟩ .rust))) ∧
    PackageNamed (Rust.manifest lives) "glyph-9-lives" := by
  intro programs
  obtain ⟨-, hTargets, -, -, hWrites, hPackage⟩ :=
    outputs_apart lives ⟨none, none⟩ [.rust, .python, .rust]
  have hRust : generate lives ⟨none, none⟩ .rust ∈ programs := List.mem_cons_self
  have hName : Rust.packageName lives = "glyph-9-lives" := by decide +kernel
  refine ⟨hTargets, by decide +kernel, fun home => hWrites _ hRust home "dist" (by decide), ?_⟩
  exact hName ▸ (hPackage _ hRust rfl).2

end CommandLine

end ServiceCompiler
