import ServiceCompiler.Proofs.Build.Declarations
import ServiceCompiler.Proofs.Build.Injection

/-! # Items that cannot be lowered

An item offends by the name it declares, by one of its injections or by a type without a name in its
signature. Lowering an item fails exactly if it offends; bodies, defaults and constant values are
never looked at. -/

namespace ServiceCompiler.Surface

mutual

/-- The names of all types and type parameters inside a type. -/
def Ty.names : Ty → List String
  | .named name | .typeParam name => [name]
  | .array t | .optional t | .future t => t.names
  | .union ts => namesOfAll ts
  | .generic base args => base.names ++ namesOfAll args
  | .function params result => namesOfAll params ++ namesOfResult result
  | .int | .float | .string | .bool | .database | .redis | .mongoDb | .llm | .unsupported => []

def namesOfAll : List Ty → List String
  | [] => []
  | t :: ts => t.names ++ namesOfAll ts

def namesOfResult : Option Ty → List String
  | none => []
  | some t => t.names

end

/-- Some type of the list has an empty name in it. -/
def Nameless (ts : List Ty) : Prop := "" ∈ ts.flatMap Ty.names

instance (ts : List Ty) : Decidable (Nameless ts) := inferInstanceAs (Decidable (_ ∈ _))

@[simp] theorem nameless_nil : Nameless [] ↔ False := by
  simp [Nameless]

@[simp] theorem nameless_append (ts us : List Ty) :
    Nameless (ts ++ us) ↔ Nameless ts ∨ Nameless us := by
  simp [Nameless]

@[simp] theorem nameless_singleton (t : Ty) : Nameless [t] ↔ "" ∈ t.names := by
  simp [Nameless]

theorem nameless_flatMap {α : Type} (as : List α) (f : α → List Ty) :
    Nameless (as.flatMap f) ↔ ∃ a ∈ as, Nameless (f a) := by
  simp only [Nameless, List.mem_flatMap]
  constructor
  · rintro ⟨t, ⟨a, hA, hT⟩, hName⟩
    exact ⟨a, hA, t, hT, hName⟩
  · rintro ⟨a, hA, t, hT, hName⟩
    exact ⟨t, ⟨a, hA, hT⟩, hName⟩

def Item.signatureTypes : Item → List Ty
  | .typeDecl d => d.fields.flatMap (·.type.toList) ++
      d.methods.flatMap fun m => m.params.flatMap (·.type.toList) ++ m.result.toList
  | .contract c =>
    c.methods.flatMap fun m => m.params.flatMap (·.type.toList) ++ m.result.toList
  | .route r => r.input.toList ++ r.result.toList ++ r.query.flatMap (·.type.toList)
  | .function f => f.params.flatMap (·.type.toList) ++ f.result.toList
  | .command c => c.params.flatMap (·.type.toList) ++ c.result.toList
  | .rpcService s => s.methods.flatMap fun m => m.input.toList ++ m.result.toList
  | .rpcHandler h => h.params.flatMap (·.type.toList) ++ h.result.toList
  | .resolver r => r.params.flatMap (·.type.toList) ++ r.result.toList
  | .constant c => c.type.toList
  | _ => []

/-- Whether a declared name, or that of a method of a contract, is empty, or the declared name is
that of an earlier declaration of the same kind. -/
def Item.misnamed (past : List Item) : Item → Bool
  | .typeDecl d => d.name = "" || d.name ∈ past.filterMap (·.typeName?)
  | .contract c =>
    c.name = "" || c.name ∈ past.filterMap (·.contractName?) || c.methods.any (·.name = "")
  | _ => false

/-- An injection that asks for no dependency or gives it no name. -/
def Injection.Offends (i : Injection) : Prop := i.provider? = none ∨ i.name = ""

instance (i : Injection) : Decidable i.Offends := inferInstanceAs (Decidable (_ ∨ _))

/-- What keeps an item behind the items of `past` from being lowered. -/
def Item.Offends (past : List Item) (item : Item) : Prop :=
  item.misnamed past = true ∨ (∃ i ∈ item.injections, i.Offends) ∨ Nameless item.signatureTypes

instance (past : List Item) (item : Item) : Decidable (item.Offends past) :=
  inferInstanceAs (Decidable (_ ∨ _ ∨ _))

/-- Types and contracts are declared before all else is lowered. -/
def Item.declares : Item → Bool
  | .typeDecl _ | .contract _ => true
  | _ => false

end ServiceCompiler.Surface

namespace ServiceCompiler.Build

open Outcome
open Surface (Nameless nameless_flatMap)

/-! ## Types -/

mutual

theorem fails_lowerTy (t : Surface.Ty) : Fails (lowerTy t) ↔ "" ∈ t.names := by
  cases t with
  | named name | typeParam name =>
    by_cases hEmpty : name = ""
    · simp [lowerTy, Surface.Ty.names, hEmpty]
    · simp [lowerTy, Surface.Ty.names, hEmpty, Ne.symm hEmpty]
  | array t | optional t | future t =>
    rw [lowerTy, fails_bind_pure, Surface.Ty.names]
    exact fails_lowerTy t
  | union ts =>
    rw [lowerTy, fails_bind_pure, Surface.Ty.names]
    exact fails_lowerTys ts
  | generic base args =>
    rw [lowerTy, Surface.Ty.names, List.mem_append]
    exact fails_bind (fails_lowerTy base) fun _ => fails_bind_pure.trans (fails_lowerTys args)
  | function params result =>
    rw [lowerTy, Surface.Ty.names, List.mem_append]
    exact fails_bind (fails_lowerTys params) fun _ =>
      fails_bind_pure.trans (fails_lowerResult result)
  | _ => simp [lowerTy, Surface.Ty.names]

theorem fails_lowerTys (ts : List Surface.Ty) :
    Fails (lowerTys ts) ↔ "" ∈ Surface.namesOfAll ts := by
  match ts with
  | [] => simp [lowerTys, Surface.namesOfAll]
  | t :: ts =>
    rw [lowerTys, Surface.namesOfAll, List.mem_append]
    exact fails_bind (fails_lowerTy t) fun _ => fails_bind_pure.trans (fails_lowerTys ts)

theorem fails_lowerResult (t : Option Surface.Ty) :
    Fails (lowerResult t) ↔ "" ∈ Surface.namesOfResult t := by
  match t with
  | none => simp [lowerResult, Surface.namesOfResult]
  | some t =>
    rw [lowerResult, Surface.namesOfResult]
    exact fails_lowerTy t

end

theorem fails_lowerTy? (t : Option Surface.Ty) : Fails (lowerTy? t) ↔ Nameless t.toList := by
  cases t with
  | none => simp [lowerTy?]
  | some t =>
    rw [lowerTy?, fails_bind_pure, Option.toList_some, Surface.nameless_singleton]
    exact fails_lowerTy t

theorem fails_lowerTyOrAny (t : Option Surface.Ty) :
    Fails (lowerTyOrAny t) ↔ Nameless t.toList := by
  rw [lowerTyOrAny, fails_bind_pure]
  exact fails_lowerTy? t

/-! ## Signatures

A list of parts fails with one of them, and a part fails with its type. -/

theorem fails_mapM_iff_nameless {α β : Type} {lower : α → Lowered β} {types : α → List Surface.Ty}
    (hPart : ∀ a, Fails (lower a) ↔ Nameless (types a)) (as : List α) :
    Fails (as.mapM lower) ↔ Nameless (as.flatMap types) := by
  rw [fails_mapM, nameless_flatMap]
  simp only [hPart]

theorem fails_lowerFields (fs : List Surface.Field) :
    Fails (lowerFields fs) ↔ Nameless (fs.flatMap (·.type.toList)) := by
  refine fails_mapM_iff_nameless (fun f => ?_) fs
  exact fails_bind_pure.trans (fails_lowerTyOrAny f.type)

theorem fails_lowerQuery (qs : List Surface.QueryParam) :
    Fails (qs.mapM lowerQueryParam) ↔ Nameless (qs.flatMap (·.type.toList)) := by
  refine fails_mapM_iff_nameless (fun q => ?_) qs
  exact fails_bind_pure.trans (fails_lowerTyOrAny q.type)

theorem fails_lowerCommandParams (ps : List Surface.CommandParam) :
    Fails (ps.mapM lowerCommandParam) ↔ Nameless (ps.flatMap (·.type.toList)) := by
  refine fails_mapM_iff_nameless (fun p => ?_) ps
  exact fails_bind_pure.trans (fails_lowerTyOrAny p.type)

theorem fails_lowerMethods (ms : List Surface.Method) :
    Fails (ms.mapM lowerMethod) ↔
      Nameless (ms.flatMap fun m => m.params.flatMap (·.type.toList) ++ m.result.toList) := by
  refine fails_mapM_iff_nameless (fun m => ?_) ms
  rw [Surface.nameless_append]
  exact fails_bind (fails_lowerFields m.params) fun _ =>
    fails_bind_pure.trans (fails_lowerTyOrAny m.result)

theorem fails_lowerRpcMethods (ms : List Surface.RpcMethod) :
    Fails (ms.mapM lowerRpcMethod) ↔
      Nameless (ms.flatMap fun m => m.input.toList ++ m.result.toList) := by
  refine fails_mapM_iff_nameless (fun m => ?_) ms
  rw [Surface.nameless_append]
  exact fails_bind (fails_lowerTyOrAny m.input) fun _ =>
    fails_bind_pure.trans (fails_lowerTyOrAny m.result)

theorem fails_lowerInjection (i : Surface.Injection) : Fails (lowerInjection i) ↔ i.Offends := by
  rw [fails_iff_ne_ok, Surface.Injection.Offends]
  constructor
  · intro hFails
    cases hProvider : i.provider? with
    | none => exact .inl rfl
    | some type =>
      refine .inr (Classical.byContradiction fun hNamed => ?_)
      exact hFails ⟨i.name, type⟩ (lowerInjection_eq_ok.mpr ⟨hProvider, hNamed, rfl⟩)
  · rintro hOffends j hOk
    obtain ⟨hProvider, hNamed, -⟩ := lowerInjection_eq_ok.mp hOk
    rcases hOffends with hNone | hEmpty
    · rw [hNone] at hProvider
      cases hProvider
    · exact hNamed hEmpty

theorem fails_lowerInjections (is : List Surface.Injection) :
    Fails (lowerInjections is) ↔ ∃ i ∈ is, i.Offends := by
  rw [lowerInjections, fails_mapM]
  simp only [fails_lowerInjection]

/-! ## Items -/

theorem fails_lowerSignatures (position : Nat) (ms : List Surface.ContractMethod) :
    Fails (lowerSignatures position ms) ↔ (∃ m ∈ ms, m.name = "") ∨
      Nameless (ms.flatMap fun m => m.params.flatMap (·.type.toList) ++ m.result.toList) := by
  induction ms generalizing position with
  | nil => simp [lowerSignatures]
  | cons m ms ih =>
    rw [lowerSignatures, List.flatMap_cons, Surface.nameless_append, Surface.nameless_append]
    by_cases hEmpty : m.name = ""
    · simp [hEmpty]
    · rw [if_neg (by simpa using hEmpty)]
      refine (fails_bind (fails_lowerFields m.params) fun _ =>
        fails_bind (fails_lowerTyOrAny m.result) fun _ =>
          fails_bind_pure.trans (ih (position + 1))).trans ?_
      simp only [List.mem_cons, exists_eq_or_imp, hEmpty, false_or]
      grind

theorem fails_lowerContract (declared : List String) (c : Surface.Contract) :
    Fails (lowerContract declared c) ↔
      c.name = "" ∨ c.name ∈ declared ∨ (∃ m ∈ c.methods, m.name = "") ∨
        Nameless (Surface.Item.contract c).signatureTypes := by
  unfold lowerContract
  split
  · rename_i hEmpty
    simp [String.isEmpty_iff.mp hEmpty]
  · rename_i hNamed
    split
    · rename_i hRepeated
      simp [List.contains_iff_mem.mp hRepeated]
    · rename_i hNew
      rw [fails_lowerSignatures]
      simp_all [Surface.Item.signatureTypes]

theorem fails_lowerRecord (declared : List String) (d : Surface.TypeDecl) :
    Fails (lowerRecord declared d) ↔
      d.name = "" ∨ d.name ∈ declared ∨ Nameless (Surface.Item.typeDecl d).signatureTypes := by
  unfold lowerRecord
  split
  · rename_i hEmpty
    simp [String.isEmpty_iff.mp hEmpty]
  · split
    · rename_i hRepeated
      simp [List.contains_iff_mem.mp hRepeated]
    · refine (fails_bind (fails_lowerFields d.fields) fun _ =>
        fails_bind_pure.trans (fails_lowerMethods d.methods)).trans ?_
      simp_all [Surface.Item.signatureTypes]

theorem fails_lowerRoute (r : Surface.Route) :
    Fails (lowerRoute r) ↔
      (∃ i ∈ r.injections, i.Offends) ∨ Nameless (Surface.Item.route r).signatureTypes := by
  refine (fails_bind (fails_lowerInjections r.injections) fun _ =>
    fails_bind (fails_lowerTy? r.input) fun _ => fails_bind (fails_lowerTy? r.result) fun _ =>
      fails_bind_pure.trans (fails_lowerQuery r.query)).trans ?_
  simp [Surface.Item.signatureTypes]

theorem fails_lowerRpcHandler (h : Surface.RpcHandler) :
    Fails (lowerRpcHandler h) ↔
      (∃ i ∈ h.injections, i.Offends) ∨ Nameless (Surface.Item.rpcHandler h).signatureTypes := by
  refine (fails_bind (fails_lowerFields h.params) fun _ =>
    fails_bind (fails_lowerTy? h.result) fun _ =>
      fails_bind_pure.trans (fails_lowerInjections h.injections)).trans ?_
  simp only [Surface.Item.signatureTypes, Surface.nameless_append]
  rw [← or_assoc, or_comm]

theorem fails_lowerResolver (r : Surface.Resolver) :
    Fails (lowerResolver r) ↔
      (∃ i ∈ r.injections, i.Offends) ∨ Nameless (Surface.Item.resolver r).signatureTypes := by
  refine (fails_bind (fails_lowerFields r.params) fun _ =>
    fails_bind (fails_lowerTy? r.result) fun _ =>
      fails_bind_pure.trans (fails_lowerInjections r.injections)).trans ?_
  simp only [Surface.Item.signatureTypes, Surface.nameless_append]
  rw [← or_assoc, or_comm]

/-- Only declarations can be misnamed. -/
theorem offends_iff_of_binding {item : Surface.Item} (hBinding : item.declares = false)
    (past : List Surface.Item) :
    item.Offends past ↔ (∃ i ∈ item.injections, i.Offends) ∨ Nameless item.signatureTypes := by
  cases item with
  | typeDecl | contract => cases hBinding
  | _ => simp [Surface.Item.Offends, Surface.Item.misnamed]

theorem fails_lowerBinding {item : Surface.Item} (hBinding : item.declares = false)
    (number : Nat) (past : List Surface.Item) :
    Fails (lowerBinding number item) ↔ item.Offends past := by
  rw [offends_iff_of_binding hBinding]
  cases item with
  | typeDecl | contract => cases hBinding
  | route r => exact fails_bind_pure.trans (fails_lowerRoute r)
  | rpcHandler h => exact fails_bind_pure.trans (fails_lowerRpcHandler h)
  | resolver r => exact fails_bind_pure.trans (fails_lowerResolver r)
  | cron j | event h | queue w =>
    refine (fails_bind_pure.trans (fails_lowerInjections _)).trans ?_
    simp [Surface.Item.injections, Surface.Item.signatureTypes]
  | function f =>
    refine (fails_bind_pure.trans (fails_bind (fails_lowerFields f.params) fun _ =>
      fails_bind_pure.trans (fails_lowerTy? f.result))).trans ?_
    simp [Surface.Item.injections, Surface.Item.signatureTypes]
  | command c =>
    refine (fails_bind_pure.trans (fails_bind (fails_lowerCommandParams c.params) fun _ =>
      fails_bind_pure.trans (fails_lowerTy? c.result))).trans ?_
    simp [Surface.Item.injections, Surface.Item.signatureTypes]
  | rpcService s =>
    refine (fails_bind_pure.trans (fails_lowerRpcMethods s.methods)).trans ?_
    simp [Surface.Item.injections, Surface.Item.signatureTypes]
  | constant c =>
    refine (fails_bind_pure.trans (fails_lowerTy? c.type)).trans ?_
    simp [Surface.Item.injections, Surface.Item.signatureTypes]
  | _ => simp [lowerBinding, Surface.Item.injections, Surface.Item.signatureTypes]

theorem Declared.fails_lowerRecord {past : List Surface.Item} {d : Declarations}
    (hDeclared : Declared past d) (decl : Surface.TypeDecl) :
    Fails (lowerRecord (d.records.map (·.name)) decl) ↔
      (Surface.Item.typeDecl decl).Offends past := by
  rw [Build.fails_lowerRecord, hDeclared.records]
  simp [Surface.Item.Offends, Surface.Item.misnamed, Surface.Item.injections, or_assoc]

theorem Declared.fails_lowerContract {past : List Surface.Item} {d : Declarations}
    (hDeclared : Declared past d) (c : Surface.Contract) :
    Fails (lowerContract (d.contracts.map (·.1)) c) ↔
      (Surface.Item.contract c).Offends past := by
  rw [Build.fails_lowerContract, hDeclared.contracts]
  simp [Surface.Item.Offends, Surface.Item.misnamed, Surface.Item.injections, or_assoc]

end ServiceCompiler.Build
