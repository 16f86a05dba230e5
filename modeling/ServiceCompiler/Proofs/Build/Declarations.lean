import ServiceCompiler.Build.Service
import ServiceCompiler.Proofs.Outcome

/-! # Declared types and contracts

The declarations are collected item by item. After any number of items they are known by name, in
program order, and every contract is found under its name with its lowered signatures. -/

namespace ServiceCompiler.Surface

def Item.typeName? : Item → Option String
  | .typeDecl d => some d.name
  | _ => none

def Item.contractName? : Item → Option String
  | .contract c => some c.name
  | _ => none

end ServiceCompiler.Surface

namespace ServiceCompiler.Build

open Outcome

/-- What is known after the items of `past`. -/
structure Declared (past : List Surface.Item) (d : Declarations) : Prop where
  records : d.records.map (·.name) = past.filterMap (·.typeName?)
  nodup : (d.records.map (·.name)).Nodup
  contracts : d.contracts.map (·.1) = past.filterMap (·.contractName?)
  signatures : ∀ c, .contract c ∈ past → ∃ methods,
    lowerSignatures 0 c.methods = .ok methods ∧ d.contracts.lookup c.name = some methods

theorem lowerRecord_eq_ok {declared : List String} {decl : Surface.TypeDecl} {r : Core.Record}
    (hLower : lowerRecord declared decl = .ok r) : decl.name ∉ declared ∧ r.name = decl.name := by
  unfold lowerRecord at hLower
  split at hLower
  · cases hLower
  · split at hLower
    · cases hLower
    · rename_i hNew
      simp only [bind_eq_ok] at hLower
      obtain ⟨fields, -, methods, -, hRecord⟩ := hLower
      cases hRecord
      exact ⟨by simpa using hNew, rfl⟩

theorem lowerContract_eq_ok {declared : List String} {c : Surface.Contract}
    {methods : List Core.Signature} (hLower : lowerContract declared c = .ok methods) :
    c.name ∉ declared ∧ lowerSignatures 0 c.methods = .ok methods := by
  unfold lowerContract at hLower
  split at hLower
  · cases hLower
  · split at hLower
    · cases hLower
    · rename_i hNew
      exact ⟨by simpa using hNew, hLower⟩

theorem lookup_eq_none_of_not_mem {contracts : Contracts} {name : String}
    (hNew : name ∉ contracts.map (·.1)) : contracts.lookup name = none := by
  rw [List.lookup_eq_none_iff]
  intro entry hEntry
  have hNe : name ≠ entry.1 := by
    rintro rfl
    exact hNew (List.mem_map_of_mem hEntry)
  simpa using hNe

namespace Declared

variable {past : List Surface.Item} {d d' : Declarations}

theorem typeDecl (hDeclared : Declared past d) {decl : Surface.TypeDecl} {r : Core.Record}
    (hNew : decl.name ∉ d.records.map (·.name)) (hName : r.name = decl.name) :
    Declared (past ++ [.typeDecl decl]) ⟨d.records ++ [r], d.contracts⟩ where
  records := by
    simp [hDeclared.records, hName, Surface.Item.typeName?]
  nodup := by
    rw [List.map_append, List.map_singleton, hName, List.nodup_append]
    refine ⟨hDeclared.nodup, by simp, fun name hPast _ hLast hSame => hNew ?_⟩
    rwa [← List.mem_singleton.mp hLast, ← hSame]
  contracts := by
    simp [hDeclared.contracts, Surface.Item.contractName?]
  signatures c hMem := hDeclared.signatures c (by simpa using hMem)

theorem contract (hDeclared : Declared past d) {decl : Surface.Contract}
    {methods : List Core.Signature} (hNew : decl.name ∉ d.contracts.map (·.1))
    (hLower : lowerSignatures 0 decl.methods = .ok methods) :
    Declared (past ++ [.contract decl]) ⟨d.records, d.contracts ++ [(decl.name, methods)]⟩ where
  records := by
    simp [hDeclared.records, Surface.Item.typeName?]
  nodup := hDeclared.nodup
  contracts := by
    simp [hDeclared.contracts, Surface.Item.contractName?]
  signatures c hMem := by
    rcases List.mem_append.mp hMem with hPast | hLast
    · obtain ⟨found, hFound, hLookup⟩ := hDeclared.signatures c hPast
      exact ⟨found, hFound, by simp [List.lookup_append, hLookup]⟩
    · obtain rfl : c = decl := by simpa using hLast
      refine ⟨methods, hLower, ?_⟩
      simp [List.lookup_append, lookup_eq_none_of_not_mem hNew]

theorem other (hDeclared : Declared past d) {item : Surface.Item}
    (hType : item.typeName? = none) (hContract : item.contractName? = none) :
    Declared (past ++ [item]) d where
  records := by simp [hDeclared.records, hType]
  nodup := hDeclared.nodup
  contracts := by simp [hDeclared.contracts, hContract]
  signatures c hMem := by
    rcases List.mem_append.mp hMem with hPast | hLast
    · exact hDeclared.signatures c hPast
    · obtain rfl : Surface.Item.contract c = item := by simpa using hLast
      cases hContract

theorem step (hDeclared : Declared past d) {item : Surface.Item}
    (hStep : declare d item = .ok d') : Declared (past ++ [item]) d' := by
  cases item with
  | typeDecl decl =>
    simp only [declare, within, bind_eq_ok, mapError_eq_ok] at hStep
    obtain ⟨r, hLower, hNext⟩ := hStep
    cases hNext
    obtain ⟨hNew, hName⟩ := lowerRecord_eq_ok hLower
    exact hDeclared.typeDecl hNew hName
  | contract decl =>
    simp only [declare, within, bind_eq_ok, mapError_eq_ok] at hStep
    obtain ⟨methods, hLower, hNext⟩ := hStep
    cases hNext
    obtain ⟨hNew, hMethods⟩ := lowerContract_eq_ok hLower
    exact hDeclared.contract hNew hMethods
  | _ =>
    cases hStep
    exact hDeclared.other rfl rfl

theorem run (hDeclared : Declared past d) {items : List Surface.Item}
    (hRun : items.foldlM declare d = .ok d') : Declared (past ++ items) d' := by
  induction items generalizing past d with
  | nil =>
    cases hRun
    simpa using hDeclared
  | cons item items ih =>
    rw [List.foldlM_cons, bind_eq_ok] at hRun
    obtain ⟨next, hStep, hRest⟩ := hRun
    simpa using ih (hDeclared.step hStep) hRest

theorem nothing : Declared [] ⟨[], []⟩ where
  records := rfl
  nodup := .nil
  contracts := rfl
  signatures c hMem := by cases hMem

end Declared

theorem declared_of_declarations {items : List Surface.Item} {d : Declarations}
    (hRun : declarations items = .ok d) : Declared items d :=
  Declared.nothing.run hRun

theorem build_eq_ok {p : Surface.Program} {b : Built} :
    build p = .ok b ↔ ∃ d bs, declarations p.items = .ok d ∧ bindings p.items = .ok bs ∧
      b = ⟨assemble (serviceName p) d bs, warnings p⟩ := by
  simp only [build, service, bind_eq_ok, pure_eq_ok, Except.ok.injEq]
  constructor
  · rintro ⟨_, ⟨d, hDeclarations, bs, hBindings, rfl⟩, rfl⟩
    exact ⟨d, bs, hDeclarations, hBindings, rfl⟩
  · rintro ⟨d, bs, hDeclarations, hBindings, rfl⟩
    exact ⟨_, ⟨d, hDeclarations, bs, hBindings, rfl⟩, rfl⟩

theorem nodup_records {p : Surface.Program} {b : Built} (hBuild : build p = .ok b) :
    (b.service.records.map (·.name)).Nodup := by
  obtain ⟨d, bs, hDeclarations, -, rfl⟩ := build_eq_ok.mp hBuild
  exact (declared_of_declarations hDeclarations).nodup

end ServiceCompiler.Build
