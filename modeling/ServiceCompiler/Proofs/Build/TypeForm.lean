import ServiceCompiler.Proofs.Build.Registry
import ServiceCompiler.Proofs.Core.Occurrence

/-! # The form of types in a service

Main statement: wherever a type occurs in a service that was built, nothing is optional twice over,
every name is given, and a provider is one of the built-in ones; and no field is optional twice
over when it may be absent. -/

namespace ServiceCompiler.Core

namespace Ty

/-- The form of a type, without what is inside it. -/
def Proper : Ty → Prop
  | .optional (.optional _) => False
  | .named name | .generic name _ => name ≠ ""
  | .provider name => name ∈ ["Database", "Redis", "MongoDB", "LLM"]
  | _ => True

theorem proper_standard (p : StandardProvider) : (provider p.typeName).Proper := by
  cases p <;> simp [Proper, StandardProvider.typeName]

/-- A type of which everything inside is proper. -/
def Formed (t : Ty) : Prop := ∀ u, Node.Inside (.ty u) (.ty t) → u.Proper

theorem formed_iff {t : Ty} : t.Formed ↔ t.Proper ∧ ∀ u ∈ t.parts, u.Formed := by
  constructor
  · intro hFormed
    refine ⟨hFormed t .here, fun u hPart v hInside => hFormed v (.part ?_ hInside)⟩
    exact List.mem_map_of_mem hPart
  · rintro ⟨hProper, hParts⟩ u hInside
    cases hInside with
    | here => exact hProper
    | part hPart hInside =>
      obtain ⟨v, hV, rfl⟩ := List.mem_map.mp hPart
      exact hParts v hV u hInside

theorem formed_orAbsent {t : Ty} (hFormed : t.Formed) : t.orAbsent.Formed := by
  cases t with
  | optional inner => exact hFormed
  | _ =>
    refine formed_iff.mpr ⟨trivial, fun u hPart => ?_⟩
    obtain rfl := List.mem_singleton.mp hPart
    exact hFormed

theorem join_cons_ne_empty {sep first : String} {rest : List String} (hFirst : first ≠ "") :
    Text.join sep (first :: rest) ≠ "" := by
  intro hEmpty
  have hChars : first.toList ≠ [] := by simpa using hFirst
  have hNil := congrArg String.toList hEmpty
  cases rest <;> simp_all [Text.join, Text.joinChars]

theorem display_ne_empty (t : Ty) (hFormed : t.Formed) : t.display ≠ "" := by
  match t with
  | .named name => exact (formed_iff.mp hFormed).1
  | .union (first :: rest) =>
    have hFirst := display_ne_empty first ((formed_iff.mp hFormed).2 first (.head _))
    exact join_cons_ne_empty hFirst
  | .int | .float | .string | .bool | .any | .union [] => simp [display]
  | .array _ | .optional _ | .future _ | .generic _ _ | .provider _ | .function _ _ =>
    simp [display, toString]

theorem name_ne_empty {t : Ty} (hFormed : t.Formed) : t.name?.getD t.display ≠ "" := by
  cases t with
  | named name => exact (formed_iff.mp hFormed).1
  | generic name args => exact (formed_iff.mp hFormed).1
  | provider name =>
    rintro rfl
    have hStandard : "" ∈ ["Database", "Redis", "MongoDB", "LLM"] := (formed_iff.mp hFormed).1
    simp at hStandard
  | _ => exact display_ne_empty _ hFormed

end Ty

end ServiceCompiler.Core

namespace ServiceCompiler.Build

open Outcome
open ServiceCompiler.Core (Node)

/-! ## Lowered types -/

mutual

theorem formed_lowerTy (t : Surface.Ty) {u : Core.Ty} (hLower : lowerTy t = .ok u) : u.Formed := by
  rw [Core.Ty.formed_iff]
  cases t with
  | int | float | string | bool | unsupported =>
    cases hLower
    exact ⟨trivial, nofun⟩
  | database | redis | mongoDb | llm =>
    cases hLower
    exact ⟨Core.Ty.proper_standard _, nofun⟩
  | named name | typeParam name =>
    rw [lowerTy] at hLower
    split at hLower
    · cases hLower
    · rename_i hName
      cases hLower
      exact ⟨by simpa [Core.Ty.Proper] using hName, nofun⟩
  | array element =>
    simp only [lowerTy, bind_eq_ok] at hLower
    obtain ⟨v, hElement, hArray⟩ := hLower
    cases hArray
    exact ⟨trivial, by simpa [Core.Ty.parts] using formed_lowerTy element hElement⟩
  | future result =>
    simp only [lowerTy, bind_eq_ok] at hLower
    obtain ⟨v, hResult, hFuture⟩ := hLower
    cases hFuture
    exact ⟨trivial, by simpa [Core.Ty.parts] using formed_lowerTy result hResult⟩
  | optional inner =>
    simp only [lowerTy, bind_eq_ok] at hLower
    obtain ⟨v, hInner, hOptional⟩ := hLower
    cases hOptional
    exact Core.Ty.formed_iff.mp (Core.Ty.formed_orAbsent (formed_lowerTy inner hInner))
  | union types =>
    simp only [lowerTy, bind_eq_ok] at hLower
    obtain ⟨us, hTypes, hUnion⟩ := hLower
    cases hUnion
    exact ⟨trivial, formed_lowerTys types hTypes⟩
  | generic base args =>
    simp only [lowerTy, bind_eq_ok] at hLower
    obtain ⟨v, hBase, us, hArgs, hGeneric⟩ := hLower
    cases hGeneric
    exact ⟨Core.Ty.name_ne_empty (formed_lowerTy base hBase), formed_lowerTys args hArgs⟩
  | function params result =>
    simp only [lowerTy, bind_eq_ok] at hLower
    obtain ⟨us, hParams, v, hResult, hFunction⟩ := hLower
    cases hFunction
    refine ⟨trivial, fun w hPart => ?_⟩
    rcases List.mem_append.mp hPart with hParam | hLast
    · exact formed_lowerTys params hParams w hParam
    · obtain rfl := List.mem_singleton.mp hLast
      exact formed_lowerResult result hResult

theorem formed_lowerTys (ts : List Surface.Ty) {us : List Core.Ty} (hLower : lowerTys ts = .ok us) :
    ∀ u ∈ us, u.Formed := by
  cases ts with
  | nil =>
    cases hLower
    exact nofun
  | cons t ts =>
    simp only [lowerTys, bind_eq_ok] at hLower
    obtain ⟨v, hFirst, vs, hRest, hList⟩ := hLower
    cases hList
    exact List.forall_mem_cons.mpr ⟨formed_lowerTy t hFirst, formed_lowerTys ts hRest⟩

theorem formed_lowerResult (t : Option Surface.Ty) {u : Core.Ty} (hLower : lowerResult t = .ok u) :
    u.Formed := by
  cases t with
  | none =>
    cases hLower
    exact Core.Ty.formed_iff.mpr ⟨trivial, nofun⟩
  | some t => exact formed_lowerTy t hLower

end

theorem formed_any : Core.Ty.any.Formed := formed_lowerTy .unsupported rfl

theorem formed_lowerBodyTy (t : Surface.Ty) : (lowerBodyTy t).Formed := by
  rw [lowerBodyTy]
  split
  · rename_i hLower
    exact formed_lowerTy t hLower
  · exact formed_any

theorem formed_lowerTy? {t : Option Surface.Ty} {found : Option Core.Ty}
    (hLower : lowerTy? t = .ok found) : ∀ u ∈ found, u.Formed := by
  cases t with
  | none =>
    cases hLower
    exact nofun
  | some t =>
    simp only [lowerTy?, bind_eq_ok] at hLower
    obtain ⟨v, hType, hFound⟩ := hLower
    cases hFound
    intro u hU
    obtain rfl := Option.mem_some_iff.mp hU
    exact formed_lowerTy t hType

theorem formed_lowerTyOrAny {t : Option Surface.Ty} {u : Core.Ty}
    (hLower : lowerTyOrAny t = .ok u) : u.Formed := by
  simp only [lowerTyOrAny, bind_eq_ok] at hLower
  obtain ⟨found, hType, hGiven⟩ := hLower
  cases hGiven
  cases found with
  | none => exact formed_any
  | some v => exact formed_lowerTy? hType v rfl

/-! ## Lowered bodies -/

/-- The nodes that lowering gives. -/
inductive Arises : Node → Prop
  | ty {t : Core.Ty} (hFormed : t.Formed) : Arises (.ty t)
  | field {f : Core.Field} (hType : f.type.Formed) (default : Option Surface.Expr)
      (hDefault : f.default = lowerExpr? default) : Arises (.field f)
  | expr (e : Surface.Expr) : Arises (.expr (lowerExpr e))
  | stmt (s : Surface.Stmt) : Arises (.stmt (lowerStmt s))

theorem arises_collected {α : Type} {g : List α → List Node} {f : α → List Node} (hNil : g [] = [])
    (hCons : ∀ a as, g (a :: as) = f a ++ g as) (hEach : ∀ a, ∀ n ∈ f a, Arises n)
    (as : List α) : ∀ n ∈ g as, Arises n := by
  induction as with
  | nil => simp [hNil]
  | cons a as ih =>
    rw [hCons]
    exact List.forall_mem_append.mpr ⟨hEach a, ih⟩

theorem arises_singleton {n : Node} (hArises : Arises n) : ∀ m ∈ [n], Arises m := by
  simpa using hArises

theorem arises_expr? (e : Option Surface.Expr) : ∀ n ∈ Core.exprNode? (lowerExpr? e), Arises n := by
  cases e with
  | none => exact nofun
  | some e => exact arises_singleton (.expr e)

theorem arises_exprs : ∀ es, ∀ n ∈ (lowerExprs es).map .expr, Arises n :=
  arises_collected rfl (fun _ _ => rfl) fun e => arises_singleton (.expr e)

theorem arises_body : ∀ ss, ∀ n ∈ (lowerBody ss).map .stmt, Arises n :=
  arises_collected rfl (fun _ _ => rfl) fun s => arises_singleton (.stmt s)

theorem arises_objectFields :
    ∀ fs, ∀ n ∈ (lowerObjectFields fs).map fun f => .expr f.value, Arises n :=
  arises_collected rfl (fun ⟨_, _⟩ _ => rfl) fun f => arises_singleton (.expr f.value)

theorem arises_matchCases :
    ∀ cs, ∀ n ∈ (lowerMatchCases cs).flatMap Core.MatchCase.parts, Arises n :=
  arises_collected rfl (fun ⟨_, _, _⟩ _ => rfl) fun c =>
    List.forall_mem_append.mpr ⟨arises_expr? c.guard, arises_singleton (.expr c.body)⟩

theorem arises_switchCases :
    ∀ cs, ∀ n ∈ (lowerSwitchCases cs).flatMap Core.SwitchCase.parts, Arises n :=
  arises_collected rfl (fun ⟨_, _⟩ _ => rfl) fun c =>
    List.forall_mem_cons.mpr ⟨.expr c.value, arises_body c.body⟩

theorem arises_params : ∀ fs, ∀ n ∈ (lowerParams fs).map .field, Arises n := by
  refine arises_collected (f := fun p => [.field ⟨p.name, (p.type.map lowerBodyTy).getD .any,
    p.required, lowerExpr? p.default, p.decorators.map lowerDecorator⟩]) rfl
    (fun ⟨_, _, _, _, _⟩ _ => rfl) fun p => arises_singleton (.field ?_ p.default rfl)
  cases p.type with
  | none => exact formed_any
  | some t => exact formed_lowerBodyTy t

theorem arises_exprParts (e : Surface.Expr) : ∀ n ∈ (lowerExpr e).parts, Arises n := by
  cases e with
  | literal value => cases value <;> exact nofun
  | var | quote | unquote | unsupported => exact nofun
  | unary _ inner | field inner _ | await inner => exact arises_singleton (.expr inner)
  | binary _ left right | pipe left right | index left right =>
    exact List.forall_mem_cons.mpr ⟨.expr left, arises_singleton (.expr right)⟩
  | call name typeArgs args =>
    refine List.forall_mem_append.mpr ⟨?_, arises_exprs args⟩
    intro n hType
    rw [List.map_map] at hType
    obtain ⟨t, -, rfl⟩ := List.mem_map.mp hType
    exact .ty (formed_lowerBodyTy t)
  | object fields => exact arises_objectFields fields
  | array elements => exact arises_exprs elements
  | lambda params body block =>
    cases body with
    | none => exact List.forall_mem_append.mpr ⟨arises_params params, arises_body block⟩
    | some body =>
      exact List.forall_mem_append.mpr ⟨arises_params params, arises_singleton (.expr body)⟩
  | matchOn value cases =>
    exact List.forall_mem_cons.mpr ⟨.expr value, arises_matchCases cases⟩
  | async body => exact arises_body body

theorem arises_stmtParts (s : Surface.Stmt) : ∀ n ∈ (lowerStmt s).parts, Arises n := by
  cases s with
  | breakLoop | continueLoop => exact nofun
  | assign _ value | reassign _ value | expr value | validate value =>
    exact arises_singleton (.expr value)
  | ret value =>
    cases value with
    | none => exact arises_singleton (.expr .unsupported)
    | some value => exact arises_singleton (.expr value)
  | cond condition thenBlock elseBlock =>
    exact List.forall_mem_cons.mpr ⟨.expr condition,
      List.forall_mem_append.mpr ⟨arises_body thenBlock, arises_body elseBlock⟩⟩
  | forEach _ _ condition body | whileLoop condition body =>
    exact List.forall_mem_cons.mpr ⟨.expr condition, arises_body body⟩
  | switch value cases otherwise =>
    exact List.forall_mem_cons.mpr ⟨.expr value,
      List.forall_mem_append.mpr ⟨arises_switchCases cases, arises_body otherwise⟩⟩
  | dbQuery | wsSend | wsBroadcast | wsClose | macroInvocation | unsupported =>
    exact arises_singleton (.expr .unsupported)

theorem Arises.part {n : Node} (hArises : Arises n) : ∀ part ∈ n.parts, Arises part := by
  cases hArises with
  | ty hFormed =>
    intro part hPart
    obtain ⟨u, hU, rfl⟩ := List.mem_map.mp hPart
    exact .ty ((Core.Ty.formed_iff.mp hFormed).2 u hU)
  | field hType default hDefault =>
    exact List.forall_mem_cons.mpr ⟨.ty hType, hDefault ▸ arises_expr? default⟩
  | expr e => exact arises_exprParts e
  | stmt s => exact arises_stmtParts s

/-! ## Lowered declarations -/

theorem arises_types {ts : Option Core.Ty} (hFormed : ∀ t ∈ ts, t.Formed) :
    ∀ n ∈ Core.typeNode? ts, Arises n := by
  intro n hMem
  obtain ⟨t, hT, rfl⟩ := List.mem_map.mp hMem
  exact .ty (hFormed t (Option.mem_toList.mp hT))

theorem arises_flatMap_mapM {α β : Type} {f : α → Lowered β} {nodes : β → List Node}
    (hEach : ∀ a b, f a = .ok b → ∀ n ∈ nodes b, Arises n) {as : List α} {bs : List β}
    (hLower : as.mapM f = .ok bs) : ∀ n ∈ bs.flatMap nodes, Arises n := by
  induction as generalizing bs with
  | nil =>
    cases hLower
    exact nofun
  | cons a as ih =>
    obtain ⟨b, rest, hFirst, hRest, rfl⟩ := mapM_cons_eq_ok.mp hLower
    exact List.forall_mem_append.mpr ⟨hEach a b hFirst, ih hRest⟩

theorem arises_lowerFields {fs : List Surface.Field} {found : List Core.Field}
    (hLower : lowerFields fs = .ok found) : ∀ n ∈ found.map .field, Arises n := by
  rw [List.map_eq_flatMap]
  refine arises_flatMap_mapM (fun f g hField => ?_) hLower
  simp only [lowerField, bind_eq_ok] at hField
  obtain ⟨t, hType, hGiven⟩ := hField
  cases hGiven
  exact arises_singleton (.field (formed_lowerTyOrAny hType) f.default rfl)

theorem arises_lowerMethod (m : Surface.Method) (found : Core.Method)
    (hLower : lowerMethod m = .ok found) : ∀ n ∈ found.nodes, Arises n := by
  simp only [lowerMethod, bind_eq_ok] at hLower
  obtain ⟨params, hParams, result, hResult, hFound⟩ := hLower
  cases hFound
  exact List.forall_mem_append.mpr ⟨arises_lowerFields hParams,
    List.forall_mem_cons.mpr ⟨.ty (formed_lowerTyOrAny hResult), arises_body m.body⟩⟩

theorem arises_lowerRecord {declared : List String} {decl : Surface.TypeDecl} {r : Core.Record}
    (hLower : lowerRecord declared decl = .ok r) : ∀ n ∈ r.nodes, Arises n := by
  unfold lowerRecord at hLower
  split at hLower
  · cases hLower
  · split at hLower
    · cases hLower
    · simp only [bind_eq_ok] at hLower
      obtain ⟨fields, hFields, methods, hMethods, hRecord⟩ := hLower
      cases hRecord
      exact List.forall_mem_append.mpr
        ⟨arises_lowerFields hFields, arises_flatMap_mapM arises_lowerMethod hMethods⟩

theorem arises_lowerSignatures {position : Nat} {ms : List Surface.ContractMethod}
    {found : List Core.Signature} (hLower : lowerSignatures position ms = .ok found) :
    ∀ n ∈ found.flatMap Core.Signature.nodes, Arises n := by
  induction ms generalizing position found with
  | nil =>
    cases hLower
    exact nofun
  | cons m ms ih =>
    rw [lowerSignatures] at hLower
    split at hLower
    · cases hLower
    · simp only [bind_eq_ok] at hLower
      obtain ⟨params, hParams, result, hResult, rest, hRest, hFound⟩ := hLower
      cases hFound
      refine List.forall_mem_append.mpr ⟨?_, ih hRest⟩
      exact List.forall_mem_append.mpr
        ⟨arises_lowerFields hParams, arises_singleton (.ty (formed_lowerTyOrAny hResult))⟩

/-- All nodes of the types and contracts declared so far arise. -/
structure DeclaredNodes (d : Declarations) : Prop where
  records : ∀ n ∈ d.records.flatMap Core.Record.nodes, Arises n
  contracts : ∀ entry ∈ d.contracts, ∀ n ∈ entry.2.flatMap Core.Signature.nodes, Arises n

theorem DeclaredNodes.step {d d' : Declarations} {item : Surface.Item} (hNodes : DeclaredNodes d)
    (hStep : declare d item = .ok d') : DeclaredNodes d' := by
  cases item with
  | typeDecl decl =>
    simp only [declare, within, bind_eq_ok, mapError_eq_ok] at hStep
    obtain ⟨r, hLower, hNext⟩ := hStep
    cases hNext
    refine ⟨?_, hNodes.contracts⟩
    rw [List.flatMap_append, List.flatMap_singleton]
    exact List.forall_mem_append.mpr ⟨hNodes.records, arises_lowerRecord hLower⟩
  | contract decl =>
    simp only [declare, within, bind_eq_ok, mapError_eq_ok] at hStep
    obtain ⟨methods, hLower, hNext⟩ := hStep
    cases hNext
    refine ⟨hNodes.records, List.forall_mem_append.mpr ⟨hNodes.contracts, ?_⟩⟩
    exact List.forall_mem_singleton.mpr (arises_lowerSignatures (lowerContract_eq_ok hLower).2)
  | _ =>
    cases hStep
    exact hNodes

theorem DeclaredNodes.run {d d' : Declarations} {items : List Surface.Item}
    (hNodes : DeclaredNodes d) (hRun : items.foldlM declare d = .ok d') : DeclaredNodes d' := by
  induction items generalizing d with
  | nil =>
    cases hRun
    exact hNodes
  | cons item items ih =>
    rw [List.foldlM_cons, bind_eq_ok] at hRun
    obtain ⟨next, hStep, hRest⟩ := hRun
    exact ih (hNodes.step hStep) hRest

theorem DeclaredNodes.nothing : DeclaredNodes ⟨[], []⟩ := ⟨by simp, by simp⟩

theorem DeclaredNodes.lookup {d : Declarations} (hNodes : DeclaredNodes d) (type : String) :
    ∀ n ∈ ((d.contracts.lookup type).getD []).flatMap Core.Signature.nodes, Arises n := by
  cases hLookup : d.contracts.lookup type with
  | none => exact nofun
  | some methods =>
    obtain ⟨before, after, hContracts, -⟩ := List.lookup_eq_some_iff.mp hLookup
    exact hNodes.contracts (type, methods) (by simp [hContracts])

/-! ## Lowered bindings -/

def Binding.nodes : Binding → List Node
  | .route r => r.nodes
  | .function f => f.nodes
  | .cron j => j.body.map .stmt
  | .event e => e.body.map .stmt
  | .queue q => q.body.map .stmt
  | .command c => c.nodes
  | .rpcMethods _ methods => methods.flatMap Core.RpcMethod.nodes
  | .rpcHandler h => h.nodes
  | .resolver r => r.nodes
  | .socket s => s.nodes
  | .constant c => c.nodes

theorem arises_lowerQueryParam (q : Surface.QueryParam) (found : Core.QueryParam)
    (hLower : lowerQueryParam q = .ok found) : ∀ n ∈ found.nodes, Arises n := by
  simp only [lowerQueryParam, bind_eq_ok] at hLower
  obtain ⟨t, hType, hFound⟩ := hLower
  cases hFound
  exact List.forall_mem_cons.mpr ⟨.ty (formed_lowerTyOrAny hType), arises_expr? q.default⟩

theorem arises_lowerCommandParam (p : Surface.CommandParam) (found : Core.CommandParam)
    (hLower : lowerCommandParam p = .ok found) : ∀ n ∈ found.nodes, Arises n := by
  simp only [lowerCommandParam, bind_eq_ok] at hLower
  obtain ⟨t, hType, hFound⟩ := hLower
  cases hFound
  exact List.forall_mem_cons.mpr ⟨.ty (formed_lowerTyOrAny hType), arises_expr? p.default⟩

theorem arises_lowerRpcMethod (m : Surface.RpcMethod) (found : Core.RpcMethod)
    (hLower : lowerRpcMethod m = .ok found) : ∀ n ∈ found.nodes, Arises n := by
  simp only [lowerRpcMethod, bind_eq_ok] at hLower
  obtain ⟨input, hInput, result, hResult, hFound⟩ := hLower
  cases hFound
  exact List.forall_mem_cons.mpr ⟨.ty (formed_lowerTyOrAny hInput),
    arises_singleton (.ty (formed_lowerTyOrAny hResult))⟩

theorem arises_middleware (ms : List Surface.Middleware) :
    ∀ n ∈ (ms.map fun m => (⟨m.name, lowerExprs m.args⟩ : Core.Middleware)).flatMap
      fun m => m.args.map .expr, Arises n := by
  rw [List.flatMap_map]
  exact List.forall_mem_flatMap.mpr fun m _ => arises_exprs m.args

theorem arises_lowerRoute {r : Surface.Route} {found : Core.Route}
    (hLower : lowerRoute r = .ok found) : ∀ n ∈ found.nodes, Arises n := by
  simp only [lowerRoute, bind_eq_ok] at hLower
  obtain ⟨_, -, input, hInput, result, hResult, query, hQuery, hFound⟩ := hLower
  cases hFound
  simp only [Core.Route.nodes, List.forall_mem_append]
  exact ⟨⟨⟨⟨arises_flatMap_mapM arises_lowerQueryParam hQuery, arises_types (formed_lowerTy? hInput)⟩,
    arises_types (formed_lowerTy? hResult)⟩, arises_middleware r.middleware⟩, arises_body r.body⟩

/-- Parameters, a result and a body, as most bindings have them. -/
theorem arises_callable {params : List Surface.Field} {fields : List Core.Field}
    {result : Option Surface.Ty} {type : Option Core.Ty} (body : List Surface.Stmt)
    (hParams : lowerFields params = .ok fields) (hResult : lowerTy? result = .ok type) :
    ∀ n ∈ fields.map .field ++ Core.typeNode? type ++ (lowerBody body).map .stmt, Arises n :=
  List.forall_mem_append.mpr ⟨List.forall_mem_append.mpr
    ⟨arises_lowerFields hParams, arises_types (formed_lowerTy? hResult)⟩, arises_body body⟩

theorem arises_lowerBinding {number : Nat} {item : Surface.Item} {b : Binding}
    (hLower : lowerBinding number item = .ok (some b)) : ∀ n ∈ b.nodes, Arises n := by
  cases item with
  | route r =>
    simp only [lowerBinding, bind_eq_ok] at hLower
    obtain ⟨found, hRoute, hFound⟩ := hLower
    cases hFound
    exact arises_lowerRoute hRoute
  | function f =>
    simp only [lowerBinding, lowerFunction, bind_eq_ok] at hLower
    obtain ⟨_, ⟨fields, hParams, type, hResult, hFunction⟩, hFound⟩ := hLower
    cases hFunction
    cases hFound
    exact arises_callable f.body hParams hResult
  | cron w | event w | queue w =>
    simp only [lowerBinding, bind_eq_ok] at hLower
    obtain ⟨_, -, hFound⟩ := hLower
    cases hFound
    exact arises_body w.body
  | command c =>
    simp only [lowerBinding, lowerCommand, bind_eq_ok] at hLower
    obtain ⟨_, ⟨params, hParams, type, hResult, hCommand⟩, hFound⟩ := hLower
    cases hCommand
    cases hFound
    exact List.forall_mem_append.mpr ⟨List.forall_mem_append.mpr
      ⟨arises_flatMap_mapM arises_lowerCommandParam hParams,
        arises_types (formed_lowerTy? hResult)⟩, arises_body c.body⟩
  | rpcService s =>
    simp only [lowerBinding, bind_eq_ok] at hLower
    obtain ⟨methods, hMethods, hFound⟩ := hLower
    cases hFound
    exact arises_flatMap_mapM arises_lowerRpcMethod hMethods
  | rpcHandler h =>
    simp only [lowerBinding, lowerRpcHandler, bind_eq_ok] at hLower
    obtain ⟨_, ⟨fields, hParams, type, hResult, _, -, hHandler⟩, hFound⟩ := hLower
    cases hHandler
    cases hFound
    exact arises_callable h.body hParams hResult
  | resolver r =>
    simp only [lowerBinding, lowerResolver, bind_eq_ok] at hLower
    obtain ⟨_, ⟨fields, hParams, type, hResult, _, -, hResolver⟩, hFound⟩ := hLower
    cases hResolver
    cases hFound
    exact arises_callable r.body hParams hResult
  | socket r =>
    cases hLower
    simp only [Binding.nodes, Core.Socket.nodes, List.flatMap_map]
    exact List.forall_mem_flatMap.mpr fun h _ => arises_body h.body
  | constant c =>
    simp only [lowerBinding, bind_eq_ok] at hLower
    obtain ⟨type, hType, hFound⟩ := hLower
    cases hFound
    refine List.forall_mem_append.mpr ⟨arises_types (formed_lowerTy? hType), ?_⟩
    cases c.value with
    | none => exact arises_singleton (.expr .unsupported)
    | some value => exact arises_singleton (.expr value)
  | _ => cases hLower

theorem arises_bind {entry : Nat × Surface.Item} {b : Binding} (hBind : bind entry = .ok (some b)) :
    ∀ n ∈ b.nodes, Arises n := by
  unfold bind at hBind
  split at hBind
  · rw [within, mapError_eq_ok] at hBind
    exact arises_lowerBinding hBind
  · cases hBind

theorem arises_bindings {items : List Surface.Item} {bs : List Binding}
    (hBindings : bindings items = .ok bs) : ∀ b ∈ bs, ∀ n ∈ b.nodes, Arises n := by
  simp only [bindings, bind_eq_ok] at hBindings
  obtain ⟨found, hRun, hFound⟩ := hBindings
  cases hFound
  intro b hB
  have hMem : some b ∈ found := List.reduceOption_mem_iff.mp hB
  obtain ⟨entry, -, hBind⟩ := exists_of_mem_mapM hRun hMem
  exact arises_bind hBind

/-! ## The service -/

theorem arises_select {α : Type} {bs : List Binding} {select : Binding → Option α}
    {nodes : α → List Node} (hNodes : ∀ b ∈ bs, ∀ n ∈ b.nodes, Arises n)
    (hSelect : ∀ b a, select b = some a → b.nodes = nodes a) :
    ∀ n ∈ (bs.filterMap select).flatMap nodes, Arises n := by
  refine List.forall_mem_flatMap.mpr fun a hA => ?_
  obtain ⟨b, hB, hFound⟩ := List.mem_filterMap.mp hA
  exact hSelect b a hFound ▸ hNodes b hB

theorem arises_rpcServices {bs : List Binding} (hNodes : ∀ b ∈ bs, ∀ n ∈ b.nodes, Arises n) :
    ∀ n ∈ (rpcServices bs).flatMap Core.RpcService.nodes, Arises n := by
  rw [rpcServices, List.flatMap_map]
  refine List.forall_mem_flatMap.mpr fun service _ => List.forall_mem_append.mpr ⟨?_, ?_⟩
  · rw [List.flatMap_assoc]
    refine List.forall_mem_flatMap.mpr fun b hB => ?_
    cases b with
    | rpcMethods name methods =>
      rw [Binding.rpcMethodsOf]
      split
      · exact hNodes _ hB
      · exact nofun
    | _ => exact nofun
  · rw [List.flatMap_assoc]
    refine List.forall_mem_flatMap.mpr fun b hB => List.forall_mem_flatMap.mpr fun h hHandler => ?_
    obtain rfl := mem_rpcHandlersOf hHandler
    exact hNodes _ hB

theorem arises_assemble {name : String} {d : Declarations} {bs : List Binding}
    (hDeclared : DeclaredNodes d) (hNodes : ∀ b ∈ bs, ∀ n ∈ b.nodes, Arises n) :
    ∀ n ∈ (assemble name d bs).nodes, Arises n := by
  have hProviders : ∀ n ∈ (registry d.contracts bs).flatMap Core.Provider.nodes, Arises n := by
    refine List.forall_mem_flatMap.mpr fun provider hProvider => ?_
    obtain ⟨type, -, rfl⟩ := mem_registry.mp hProvider
    exact hDeclared.lookup type
  simp only [Core.Service.nodes, List.forall_mem_append]
  refine ⟨⟨⟨⟨⟨⟨⟨⟨⟨⟨⟨hDeclared.records, hProviders⟩, ?_⟩, ?_⟩, ?_⟩, ?_⟩, ?_⟩, ?_⟩,
    arises_rpcServices hNodes⟩, ?_⟩, ?_⟩, ?_⟩
  all_goals
    refine arises_select hNodes fun b a hSelect => ?_
    cases b <;> cases hSelect
    rfl

/-- Whatever arises has the proper form. -/
theorem Arises.proper {t : Core.Ty} (hArises : Arises (.ty t)) : t.Proper := by
  cases hArises with
  | ty hFormed => exact hFormed t .here

theorem Arises.effectiveType {f : Core.Field} (hArises : Arises (.field f)) :
    f.effectiveType.Proper := by
  cases hArises with
  | field hType =>
    rw [Core.Field.effectiveType]
    split
    · exact hType _ .here
    · exact Core.Ty.formed_orAbsent hType _ .here

/-- The types that occur in a built service have the proper form, and so have those that readers of
its fields see. -/
theorem types_of_build {p : Surface.Program} {b : Built} (hBuild : build p = .ok b) :
    (∀ t, b.service.Has (.ty t) → t.Proper) ∧
      ∀ f, b.service.Has (.field f) → ∀ t, f.effectiveType ≠ .optional (.optional t) := by
  obtain ⟨d, bs, hDeclarations, hBindings, rfl⟩ := build_eq_ok.mp hBuild
  have hDeclared : DeclaredNodes d := DeclaredNodes.nothing.run hDeclarations
  have hArises : ∀ n, (assemble (serviceName p) d bs).Has n → Arises n := by
    rintro n ⟨root, hRoot, hInside⟩
    exact hInside.induct (fun _ _ hOuter => hOuter.part _)
      (arises_assemble hDeclared (arises_bindings hBindings) root hRoot)
  refine ⟨fun t hHas => (hArises _ hHas).proper, fun f hHas t hDouble => ?_⟩
  have hProper := (hArises _ hHas).effectiveType
  rw [hDouble] at hProper
  exact hProper

/-- A union that a generic type is named after, a type argument without a name, and a parameter of
a lambda inside a default that is optional three times over. -/
def gallery : Surface.Program where
  items := [
    .function ⟨"hang", [],
      [⟨"at", some (.generic (.union [.optional (.optional (.named "Wall")), .llm]) [.int]), false,
        some (.lambda
          [⟨"x", some (.optional (.optional (.optional .redis))), false, none, []⟩]
          (some (.call "pick" [.named "", .array (.typeParam "T")] [])) []), []⟩],
      none, []⟩]

theorem types_of_build_gallery : ∃ b, build gallery = .ok b ∧
    b.service.Has (.ty (.generic "Wall? | provider LLM" [.int])) ∧
    b.service.Has (.field ⟨"x", .optional (.provider "Redis"), false, none, []⟩) ∧
    b.service.Has (.ty (.array (.named "T"))) ∧
    (∀ t, b.service.Has (.ty t) → t.Proper) ∧
    ∀ f, b.service.Has (.field f) → ∀ t, f.effectiveType ≠ .optional (.optional t) := by
  obtain ⟨b, hBuild⟩ : ∃ b, build gallery = .ok b := ⟨_, rfl⟩
  refine ⟨b, hBuild, ?_, ?_, ?_, types_of_build hBuild⟩ <;> cases hBuild
  · exact ⟨_, .head _, .part (.head _) .here⟩
  · exact ⟨_, .head _, .part (.tail _ (.head _)) (.part (.head _) .here)⟩
  · exact ⟨_, .head _, .part (.tail _ (.head _))
      (.part (.tail _ (.head _)) (.part (.tail _ (.head _)) .here))⟩

end ServiceCompiler.Build
