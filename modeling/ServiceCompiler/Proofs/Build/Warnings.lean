import Mathlib.Data.List.Perm.Basic
import Mathlib.Data.List.TakeWhile
import ServiceCompiler.Proofs.Build.Failure
import ServiceCompiler.Proofs.Surface.Reach

/-! # Warnings about fallbacks

Main statement: a service that was built comes with one warning for each node that was reached and
replaced, located at the declaration that the node stands in, and with one warning without location
for each declaration that is not understood. A type in a body whose names are not all given counts
as one replaced node, besides its unknown parts up to the first missing name. -/

namespace ServiceCompiler.Surface

namespace Node

def isUnknownTy : Node → Bool
  | ty .unsupported => true
  | _ => false

def isNamelessTy : Node → Bool
  | ty (.named name) | ty (.typeParam name) => name = ""
  | _ => false

/-- The number of warnings about the type of a parameter of a lambda or a type argument. -/
def bodyTyCount (t : Ty) : Nat :=
  let inside := (ty t).reached
  if inside.any isNamelessTy then (inside.takeWhile (!·.isNamelessTy)).countP isUnknownTy + 1
  else inside.countP isUnknownTy

/-- The codes of the warnings about a node, without what stands inside it. -/
def codes : Node → List Code
  | stmt s => if (stmt s).isFallback then [⟨'W', 1⟩] else []
  | expr e => if (expr e).isFallback then [⟨'W', 2⟩] else []
  | pattern p => if (pattern p).isFallback then [⟨'W', 3⟩] else []
  | ty t => if (ty t).isFallback then [⟨'W', 4⟩] else []
  | bodyTy t => List.replicate (bodyTyCount t) ⟨'W', 4⟩

end Node

def Field.nodes (f : Field) : List Node := f.type.toList.map .ty ++ f.default.toList.map .expr

def signatureNodes (params : List Field) (result : Option Ty) : List Node :=
  params.flatMap Field.nodes ++ result.toList.map .ty

/-- The nodes directly inside a type, a contract or a binding, without the types of injections. -/
def Item.contents : Item → List Node
  | .typeDecl d => d.fields.flatMap Field.nodes ++
      d.methods.flatMap fun m => signatureNodes m.params m.result ++ m.body.map .stmt
  | .contract c => c.methods.flatMap fun m => signatureNodes m.params m.result
  | .route r => r.input.toList.map .ty ++ r.result.toList.map .ty ++
      (r.query.flatMap fun q => q.type.toList.map .ty ++ q.default.toList.map .expr) ++
      (r.middleware.flatMap fun m => m.args.map .expr) ++ r.body.map .stmt
  | .function f => signatureNodes f.params f.result ++ f.body.map .stmt
  | .cron j => j.body.map .stmt
  | .event h => h.body.map .stmt
  | .queue w => w.body.map .stmt
  | .command c => (c.params.flatMap fun p => p.type.toList.map .ty ++ p.default.toList.map .expr) ++
      c.result.toList.map .ty ++ c.body.map .stmt
  | .rpcService s => s.methods.flatMap fun m => m.input.toList.map .ty ++ m.result.toList.map .ty
  | .rpcHandler h => signatureNodes h.params h.result ++ h.body.map .stmt
  | .resolver r => signatureNodes r.params r.result ++ r.body.map .stmt
  | .socket r => r.handlers.flatMap fun h => h.body.map .stmt
  | .constant c => c.type.toList.map .ty ++ c.value.toList.map .expr
  | .moduleName _ | .importing _ _ | .test _ _ | .macroDecl _ _ _ | .traitDecl _ _
  | .staticRoute _ _ | .unsupported => []

def Item.reached (item : Item) : List Node :=
  (item.injections.flatMap (·.type.toList.map Node.ty) ++ item.contents).flatMap Node.reached

end ServiceCompiler.Surface

namespace ServiceCompiler.Build

open Surface (Node history)

def expectedCodes : Surface.Item → List Code
  | .unsupported => [⟨'W', 5⟩]
  | item => item.reached.flatMap Node.codes

/-- Where the warnings about an item behind others are located. -/
def expectedLocation (entry : List Surface.Item × Surface.Item) : List String :=
  (title entry).toList.map fun found => found.1.name ++ " " ++ found.2

/-! ## Lists of parts -/

theorem eq_flatMap {α β : Type} {g : List α → List β} {f : α → List β} (hNil : g [] = [])
    (hCons : ∀ a as, g (a :: as) = f a ++ g as) (as : List α) : g as = as.flatMap f := by
  induction as with
  | nil => exact hNil
  | cons a as ih => rw [hCons, ih, List.flatMap_cons]

theorem tysMarks_eq (ts : List Surface.Ty) : tysMarks ts = ts.flatMap tyMarks :=
  eq_flatMap rfl (fun _ _ => rfl) ts

theorem resultMarks_eq (t : Option Surface.Ty) : resultMarks t = t.toList.flatMap tyMarks := by
  cases t <;> simp [resultMarks]

theorem patternsFallbacks_eq (ps : List Surface.Pattern) :
    patternsFallbacks ps = ps.flatMap patternFallbacks :=
  eq_flatMap rfl (fun _ _ => rfl) ps

theorem patternFieldFallbacks_eq (fs : List Surface.PatternField) :
    patternFieldFallbacks fs = (fs.filterMap (·.pattern)).flatMap patternFallbacks := by
  induction fs with
  | nil => rfl
  | cons f fs ih =>
    obtain ⟨key, _ | p⟩ := f <;> simp [patternFieldFallbacks, ih]

theorem exprsFallbacks_eq (es : List Surface.Expr) :
    exprsFallbacks es = es.flatMap exprFallbacks :=
  eq_flatMap rfl (fun _ _ => rfl) es

theorem exprFallbacks?_eq (e : Option Surface.Expr) :
    exprFallbacks? e = e.toList.flatMap exprFallbacks := by
  cases e <;> simp [exprFallbacks?]

theorem objectFallbacks_eq (fs : List Surface.ObjectField) :
    objectFallbacks fs = fs.flatMap fun f => exprFallbacks f.value :=
  eq_flatMap rfl (fun ⟨_, _⟩ _ => rfl) fs

theorem matchFallbacks_eq (cs : List Surface.MatchCase) :
    matchFallbacks cs = cs.flatMap fun c =>
      patternFallbacks c.pattern ++ exprFallbacks? c.guard ++ exprFallbacks c.body :=
  eq_flatMap rfl (fun ⟨_, _, _⟩ _ => rfl) cs

theorem paramFallbacks_eq (fs : List Surface.Field) :
    paramFallbacks fs = fs.flatMap fun f =>
      f.type.toList.flatMap bodyTyFallbacks ++ exprFallbacks? f.default :=
  eq_flatMap rfl (fun ⟨_, _, _, _, _⟩ _ => rfl) fs

theorem bodyFallbacks_eq (ss : List Surface.Stmt) :
    bodyFallbacks ss = ss.flatMap stmtFallbacks :=
  eq_flatMap rfl (fun _ _ => rfl) ss

theorem switchFallbacks_eq (cs : List Surface.SwitchCase) :
    switchFallbacks cs = cs.flatMap fun c => exprFallbacks c.value ++ bodyFallbacks c.body :=
  eq_flatMap rfl (fun ⟨_, _⟩ _ => rfl) cs

/-! ## Types -/

/-- The mark that a node leaves, if it is a part of a type without a meaning. -/
def nodeMark (n : Node) : List TyMark :=
  if n.isUnknownTy then [.unknown] else if n.isNamelessTy then [.nameless] else []

theorem tyMarks_parts (t : Surface.Ty) :
    tyMarks t = nodeMark (.ty t) ++ t.parts.flatMap tyMarks := by
  cases t with
  | named name | typeParam name =>
    by_cases hEmpty : name = "" <;>
      simp [tyMarks, nameMarks, nodeMark, Node.isUnknownTy, Node.isNamelessTy, Surface.Ty.parts,
        hEmpty]
  | _ =>
    simp [tyMarks, nodeMark, Node.isUnknownTy, Node.isNamelessTy, Surface.Ty.parts, tysMarks_eq,
      resultMarks_eq]

/-- The marks of the types among the nodes; other nodes have no part that is a type. -/
def tyNodeMarks : Node → List TyMark
  | .ty t => tyMarks t
  | _ => []

theorem tyMarks_eq (t : Surface.Ty) : tyMarks t = (Node.ty t).reached.flatMap nodeMark := by
  refine Node.flatMap_reached (f := tyNodeMarks) (P := fun n => ∃ t, n = .ty t) ?_ ?_ (.ty t) ⟨t, rfl⟩
  · rintro _ ⟨t, rfl⟩ m hMem
    obtain ⟨u, -, rfl⟩ := List.mem_map.mp hMem
    exact ⟨u, rfl⟩
  · rintro _ ⟨t, rfl⟩
    rw [tyNodeMarks, tyMarks_parts, Node.parts, List.flatMap_map]
    split
    · rename_i hFallback
      cases t with
      | unsupported => rfl
      | _ => cases hFallback
    · rfl

theorem isNamelessTy_of_isUnknownTy {n : Node} (hUnknown : n.isUnknownTy = true) :
    n.isNamelessTy = false := by
  cases n with
  | ty t =>
    cases t with
    | unsupported => rfl
    | _ => cases hUnknown
  | _ => rfl

theorem length_takeWhile_marks (ns : List Node) :
    ((ns.flatMap nodeMark).takeWhile (· == .unknown)).length =
      (ns.takeWhile (!·.isNamelessTy)).countP (·.isUnknownTy) := by
  induction ns with
  | nil => rfl
  | cons n ns ih =>
    cases hUnknown : n.isUnknownTy with
    | true => simp [nodeMark, hUnknown, isNamelessTy_of_isUnknownTy hUnknown, ih]
    | false =>
      cases hNameless : n.isNamelessTy with
      | true => simp [nodeMark, hUnknown, hNameless]
      | false => simp [nodeMark, hUnknown, hNameless, ih]

theorem contains_nameless (ns : List Node) :
    (ns.flatMap nodeMark).contains .nameless = ns.any (·.isNamelessTy) := by
  induction ns with
  | nil => rfl
  | cons n ns ih =>
    cases hUnknown : n.isUnknownTy with
    | true =>
      have hNamed : n.isNamelessTy = false := isNamelessTy_of_isUnknownTy hUnknown
      simpa [nodeMark, hUnknown, hNamed] using ih
    | false =>
      cases hNameless : n.isNamelessTy with
      | true => simp [nodeMark, hUnknown, hNameless]
      | false => simpa [nodeMark, hUnknown, hNameless] using ih

theorem codes_tyFallbacks (t : Surface.Ty) :
    (tyFallbacks t).map (·.code) =
      List.replicate ((tyMarks t).takeWhile (· == .unknown)).length ⟨'W', 4⟩ := by
  rw [tyFallbacks, List.map_map]
  exact List.map_const'

theorem codes_bodyTyFallbacks (t : Surface.Ty) :
    (bodyTyFallbacks t).map (·.code) = (Node.bodyTy t).codes := by
  rw [bodyTyFallbacks, List.map_append, codes_tyFallbacks, tyMarks_eq, length_takeWhile_marks,
    contains_nameless, Node.codes, Node.bodyTyCount]
  cases hNameless : (Node.ty t).reached.any (·.isNamelessTy) with
  | true =>
    rw [if_pos rfl, if_pos rfl, List.replicate_succ']
    rfl
  | false =>
    have hAll : (Node.ty t).reached.takeWhile (!·.isNamelessTy) = (Node.ty t).reached := by
      rw [List.takeWhile_eq_self_iff]
      intro n hMem
      have hNamed := List.any_eq_false.mp hNameless n hMem
      simpa using hNamed
    rw [hAll]
    simp

/-! ## Nodes -/

def fallbacksOf : Node → List Fallback
  | .ty t => ((tyMarks t).filter (· == .unknown)).map fun _ => .type
  | .bodyTy t => bodyTyFallbacks t
  | .pattern p => patternFallbacks p
  | .expr e => exprFallbacks e
  | .stmt s => stmtFallbacks s

theorem fallbacksOf_parts {n : Node} (hOrdinary : n.isFallback = false)
    (hBody : ∀ t, n ≠ .bodyTy t) : fallbacksOf n = n.parts.flatMap fallbacksOf := by
  cases n with
  | ty t =>
    have hOwn : (nodeMark (.ty t)).filter (· == .unknown) = [] := by
      cases t with
      | unsupported => cases hOrdinary
      | named name | typeParam name =>
        by_cases hEmpty : name = "" <;> simp [nodeMark, Node.isUnknownTy, Node.isNamelessTy, hEmpty]
      | _ => rfl
    rw [fallbacksOf, tyMarks_parts, List.filter_append, hOwn, Node.parts]
    simp [fallbacksOf, List.filter_flatMap, List.map_flatMap, List.flatMap_map]
  | bodyTy t => exact absurd rfl (hBody t)
  | pattern p =>
    cases p with
    | unsupported => cases hOrdinary
    | _ =>
      simp [fallbacksOf, patternFallbacks, patternsFallbacks_eq, patternFieldFallbacks_eq,
        Node.parts, Surface.Pattern.parts, List.flatMap_map]
  | expr e =>
    cases e with
    | quote | unquote | unsupported => cases hOrdinary
    | lambda params body block =>
      cases body <;>
        simp [fallbacksOf, exprFallbacks, paramFallbacks_eq, bodyFallbacks_eq, exprFallbacks?_eq,
          Node.parts, Surface.Expr.parts, Surface.Field.paramNodes, List.flatMap_map, List.flatMap_assoc]
    | _ =>
      simp [fallbacksOf, exprFallbacks, exprsFallbacks_eq, objectFallbacks_eq, matchFallbacks_eq,
        bodyFallbacks_eq, exprFallbacks?_eq, Node.parts, Surface.Expr.parts,
        Surface.MatchCase.nodes, List.flatMap_map, List.flatMap_assoc]
  | stmt s =>
    cases s with
    | dbQuery | wsSend | wsBroadcast | wsClose | macroInvocation | unsupported => cases hOrdinary
    | _ =>
      simp [fallbacksOf, stmtFallbacks, exprFallbacks?_eq, bodyFallbacks_eq, switchFallbacks_eq,
        Node.parts, Surface.Stmt.parts, Surface.SwitchCase.nodes, List.flatMap_map,
        List.flatMap_assoc]

theorem codes_fallbacksOf_step (n : Node) :
    (fallbacksOf n).map (·.code) =
      n.codes ++ if n.isFallback then [] else n.parts.flatMap fun m => (fallbacksOf m).map (·.code) := by
  cases hFallback : n.isFallback with
  | true =>
    cases n with
    | ty t =>
      cases t with
      | unsupported => rfl
      | _ => cases hFallback
    | bodyTy t => cases hFallback
    | pattern p =>
      cases p with
      | unsupported => rfl
      | _ => cases hFallback
    | expr e =>
      cases e with
      | quote | unquote | unsupported => rfl
      | _ => cases hFallback
    | stmt s =>
      cases s with
      | dbQuery | wsSend | wsBroadcast | wsClose | macroInvocation | unsupported => rfl
      | _ => cases hFallback
  | false =>
    cases n with
    | bodyTy t => simpa [fallbacksOf, Node.parts] using codes_bodyTyFallbacks t
    | _ =>
      rw [fallbacksOf_parts hFallback (by simp), List.map_flatMap, Node.codes, hFallback]
      rfl

theorem codes_fallbacksOf (n : Node) :
    (fallbacksOf n).map (·.code) = n.reached.flatMap Node.codes :=
  Node.flatMap_reached (P := fun _ => True) (fun _ _ _ _ => trivial)
    (fun n _ => codes_fallbacksOf_step n) n trivial

/-! ## Items -/

mutual

theorem nameless_mem_tyMarks (t : Surface.Ty) : .nameless ∈ tyMarks t ↔ "" ∈ t.names := by
  cases t with
  | named name | typeParam name =>
    by_cases hEmpty : name = ""
    · simp [tyMarks, nameMarks, Surface.Ty.names, hEmpty]
    · simp [tyMarks, nameMarks, Surface.Ty.names, hEmpty, Ne.symm hEmpty]
  | array t | optional t | future t => simpa [tyMarks, Surface.Ty.names] using nameless_mem_tyMarks t
  | union ts => simpa [tyMarks, Surface.Ty.names] using nameless_mem_tysMarks ts
  | generic base args =>
    simp [tyMarks, Surface.Ty.names, nameless_mem_tyMarks base, nameless_mem_tysMarks args]
  | function params result =>
    simp [tyMarks, Surface.Ty.names, nameless_mem_tysMarks params, nameless_mem_resultMarks result]
  | _ => simp [tyMarks, Surface.Ty.names]

theorem nameless_mem_tysMarks (ts : List Surface.Ty) :
    .nameless ∈ tysMarks ts ↔ "" ∈ Surface.namesOfAll ts := by
  match ts with
  | [] => simp [tysMarks, Surface.namesOfAll]
  | t :: ts =>
    simp [tysMarks, Surface.namesOfAll, nameless_mem_tyMarks t, nameless_mem_tysMarks ts]

theorem nameless_mem_resultMarks (t : Option Surface.Ty) :
    .nameless ∈ resultMarks t ↔ "" ∈ Surface.namesOfResult t := by
  match t with
  | none => simp [resultMarks, Surface.namesOfResult]
  | some t => simp [resultMarks, Surface.namesOfResult, nameless_mem_tyMarks t]

end

/-- What is said about a node of a signature: a type is only looked at up to a missing name. -/
def signatureFallbacks : Node → List Fallback
  | .ty t => tyFallbacks t
  | n => fallbacksOf n

theorem codes_signatureFallbacks {n : Node} (hNamed : ∀ t, n = .ty t → "" ∉ t.names) :
    (signatureFallbacks n).map (·.code) = n.reached.flatMap Node.codes := by
  rw [← codes_fallbacksOf]
  cases n with
  | ty t =>
    have hMark : ∀ mark ∈ tyMarks t, mark = .unknown := by
      intro mark hMem
      cases mark with
      | unknown => rfl
      | nameless => exact absurd ((nameless_mem_tyMarks t).mp hMem) (hNamed t rfl)
    have hTake : (tyMarks t).takeWhile (· == .unknown) = (tyMarks t).filter (· == .unknown) := by
      rw [List.takeWhile_eq_self_iff.mpr, List.filter_eq_self.mpr]
      all_goals simpa using hMark
    rw [signatureFallbacks, tyFallbacks, hTake, fallbacksOf]
  | _ => rfl

theorem itemFallbacks_eq {item : Surface.Item} (hKnown : item ≠ .unsupported) :
    declarationFallbacks item ++ bindingFallbacks item =
      item.contents.flatMap signatureFallbacks := by
  cases item with
  | unsupported => exact absurd rfl hKnown
  | _ =>
    simp [declarationFallbacks, bindingFallbacks, Surface.Item.contents, Surface.signatureNodes,
      fieldFallbacks, tyFallbacks?, Surface.Field.nodes, signatureFallbacks, fallbacksOf,
      exprFallbacks?_eq, exprsFallbacks_eq, bodyFallbacks_eq, List.flatMap_map, List.flatMap_assoc]

theorem mem_signatureTypes_of_mem_contents {item : Surface.Item} {t : Surface.Ty}
    (hMem : .ty t ∈ item.contents) : t ∈ item.signatureTypes := by
  cases item <;>
    simp [Surface.Item.contents, Surface.signatureNodes, Surface.Field.nodes,
      Surface.Item.signatureTypes] at hMem ⊢ <;>
    grind

/-- The type of an injection that does not offend is a name. -/
theorem codes_injection {i : Surface.Injection} (hFine : ¬ i.Offends) :
    (i.type.toList.map Node.ty).flatMap (·.reached.flatMap Node.codes) = [] := by
  obtain ⟨name, type⟩ := i
  cases type with
  | none => rfl
  | some t =>
    cases t with
    | database | redis | mongoDb | llm | named =>
      rw [Option.toList_some, List.map_singleton, List.flatMap_singleton, Node.reached_leaf rfl]
      rfl
    | _ => exact absurd (.inl rfl) hFine

theorem codes_itemFallbacks {past : List Surface.Item} {item : Surface.Item}
    (hFine : ¬ item.Offends past) :
    (declarationFallbacks item ++ bindingFallbacks item).map (·.code) = expectedCodes item := by
  by_cases hKnown : item = .unsupported
  · rw [hKnown]
    rfl
  have hInjections : ((item.injections.flatMap (·.type.toList.map Node.ty)).flatMap
      Node.reached).flatMap Node.codes = [] := by
    rw [List.flatMap_assoc, List.flatMap_assoc, List.flatMap_eq_nil_iff]
    intro i hI
    exact codes_injection fun hOffends => hFine (.inr (.inl ⟨i, hI, hOffends⟩))
  -- an item that does not offend names no unknown type, so all of its types are looked at
  have hContents : (item.contents.flatMap signatureFallbacks).map (·.code) =
      (item.contents.flatMap Node.reached).flatMap Node.codes := by
    rw [List.map_flatMap, List.flatMap_assoc, List.flatMap_def, List.flatMap_def]
    refine congrArg List.flatten (List.map_congr_left fun n hN => codes_signatureFallbacks ?_)
    rintro t rfl hName
    refine hFine (.inr (.inr (List.mem_flatMap.mpr ⟨t, ?_, hName⟩)))
    exact mem_signatureTypes_of_mem_contents hN
  have hExpected : expectedCodes item = item.reached.flatMap Node.codes := by
    cases item with
    | unsupported => exact absurd rfl hKnown
    | _ => rfl
  rw [itemFallbacks_eq hKnown, hContents, hExpected, Surface.Item.reached, List.flatMap_append,
    List.flatMap_append, hInjections, List.nil_append]

/-! ## Programs -/

theorem numbered_eq_history (past items : List Surface.Item) :
    numbered (past.countP isCron) items =
      (history past items).map fun entry => ((entry.1 ++ [entry.2]).countP isCron, entry.2) := by
  induction items generalizing past with
  | nil => rfl
  | cons item items ih =>
    have hNumber : (if isCron item then past.countP isCron + 1 else past.countP isCron) =
        (past ++ [item]).countP isCron := by
      cases hCron : isCron item <;> simp [hCron]
    rw [numbered, history, List.map_cons, hNumber, ih]

/-- The warnings about one item, those about a declaration before those about a binding. -/
def warningsAbout (entry : List Surface.Item × Surface.Item) : List Diagnostic :=
  (declarationFallbacks entry.2 ++ bindingFallbacks entry.2).map
    (Fallback.diagnostic (title entry))

theorem warnings_perm_history (p : Surface.Program) :
    (warnings p).Perm ((history [] p.items).flatMap warningsAbout) := by
  have hEntries := numbered_eq_history [] p.items
  rw [List.countP_nil] at hEntries
  have hAbout : warningsAbout = fun entry =>
      (declarationFallbacks entry.2).map (Fallback.diagnostic (title entry)) ++
        (bindingFallbacks entry.2).map (Fallback.diagnostic (title entry)) :=
    funext fun _ => List.map_append
  simp only [warnings, hEntries, List.flatMap_map, scope_eq_title]
  rw [hAbout]
  exact List.flatMap_append_perm _ _ _

theorem signs_warningsAbout {entry : List Surface.Item × Surface.Item}
    (hFine : ¬ entry.2.Offends entry.1) :
    (warningsAbout entry).map (fun d => (d.code, d.locations)) =
      (expectedCodes entry.2).map fun code => (some code, expectedLocation entry) := by
  rw [← codes_itemFallbacks hFine, warningsAbout, List.map_map, List.map_map]
  refine List.map_congr_left fun fallback _ => ?_
  cases hTitle : title entry with
  | none => simp [Fallback.diagnostic, expectedLocation, hTitle]
  | some found =>
    simp only [Function.comp_apply, Fallback.diagnostic, expectedLocation, hTitle]
    rfl

/-- The diagnostics of a built service are warnings: one for each reached node that was replaced,
located at its declaration, and one for each declaration that is not understood. -/
theorem warnings_of_build {p : Surface.Program} {b : Built} (hBuild : build p = .ok b) :
    (∀ d ∈ b.warnings, d.level = .warning) ∧
      (b.warnings.map fun d => (d.code, d.locations)).Perm
        ((history [] p.items).flatMap fun entry =>
          (expectedCodes entry.2).map fun code => (some code, expectedLocation entry)) := by
  obtain ⟨d, bs, -, -, rfl⟩ := build_eq_ok.mp hBuild
  have hFine : ∀ entry ∈ history [] p.items, ¬ entry.2.Offends entry.1 := by
    rintro ⟨past, item⟩ hMem hOffends
    obtain ⟨passed, rest, hItems, hPast⟩ := Surface.mem_history.mp hMem
    rw [List.nil_append] at hPast
    have hFails := (fails_build p).mpr ⟨past, item, rest, hPast ▸ hItems, hOffends⟩
    rw [hBuild, Outcome.fails_ok] at hFails
    exact hFails
  have hPerm := warnings_perm_history p
  constructor
  · intro d hMem
    obtain ⟨entry, -, hAbout⟩ := List.mem_flatMap.mp (hPerm.mem_iff.mp hMem)
    obtain ⟨fallback, -, rfl⟩ := List.mem_map.mp hAbout
    rfl
  · refine (hPerm.map _).trans (.of_eq ?_)
    rw [List.map_flatMap, List.flatMap_def, List.flatMap_def]
    exact congrArg List.flatten
      (List.map_congr_left fun entry hMem => signs_warningsAbout (hFine entry hMem))

/-- Fallbacks at every kind of place, some of them behind others that hide them. -/
def depot : Surface.Program where
  items := [
    .unsupported,
    .function ⟨"pack", [],
      [⟨"size", some (.array .unsupported), true, some (.quote [.unsupported]), []⟩], none,
      [.expr (.lambda
          [⟨"x", some (.union [.unsupported, .named "", .unsupported]), true, none, []⟩]
          (some .unsupported) [.unsupported]),
        .dbQuery "q" [.unsupported]]⟩,
    .test "skipped" [.unsupported],
    .cron ⟨"", "@daily", none, 0, [⟨"db", some .database⟩],
      [.expr (.matchOn (.var "x") [⟨.unsupported, none, .var "y"⟩])]⟩]

theorem warnings_of_build_depot : ∃ b, build depot = .ok b ∧
    (b.warnings.map fun d => (d.code, d.locations)) =
      [(some ⟨'W', 5⟩, []), (some ⟨'W', 4⟩, ["function pack"]),
        (some ⟨'W', 2⟩, ["function pack"]), (some ⟨'W', 4⟩, ["function pack"]),
        (some ⟨'W', 4⟩, ["function pack"]), (some ⟨'W', 2⟩, ["function pack"]),
        (some ⟨'W', 1⟩, ["function pack"]), (some ⟨'W', 3⟩, ["cron job cron_job_1"])] ∧
    (∀ d ∈ b.warnings, d.level = .warning) ∧
    (b.warnings.map fun d => (d.code, d.locations)).Perm
      ((history [] depot.items).flatMap fun entry =>
        (expectedCodes entry.2).map fun code => (some code, expectedLocation entry)) := by
  obtain ⟨b, hBuild⟩ : ∃ b, build depot = .ok b := ⟨_, rfl⟩
  refine ⟨b, hBuild, ?_, warnings_of_build hBuild⟩
  cases hBuild
  decide +kernel

end ServiceCompiler.Build
