import ServiceCompiler.Core.Nodes
import ServiceCompiler.Proofs.Core.Occurrence

/-! # What lies in a body

The nodes of a body are listed in the order of the text. Here the list is characterised over parts:
it holds exactly the expressions that lie in the body at any depth. The default value of a lambda
parameter is evaluated by a caller and does not lie in the body around the lambda. -/

namespace ServiceCompiler.Core

namespace Node

/-- Whether a node takes part in running what it stands in. -/
def runs : Node → Bool
  | expr _ | stmt _ => true
  | ty _ | field _ => false

/-- A node in another one at any depth, over expressions and statements only. -/
inductive Within (n : Node) : Node → Prop
  | here : Within n n
  | part {outer part : Node} (hPart : part ∈ outer.parts) (hRuns : part.runs = true)
      (hWithin : Within n part) : Within n outer

theorem Within.trans {n m root : Node} (h : n.Within m) (hOuter : m.Within root) :
    n.Within root := by
  induction hOuter with
  | here => exact h
  | part hPart hRuns _ ih => exact .part hPart hRuns ih

def exprs : Node → List Expr
  | expr e => e.nodes
  | stmt s => s.nodes
  | ty _ | field _ => []

end Node

open Node (exprs Within)

/-! ## Nodes along the parts -/

theorem Expr.listNodes_eq (es : List Expr) :
    Expr.listNodes es = (es.map Node.expr).flatMap exprs := by
  induction es with
  | nil => rfl
  | cons e es ih => simp [Expr.listNodes, exprs, ih]

theorem Expr.fieldNodes_eq (fs : List ObjectField) :
    Expr.fieldNodes fs = (fs.map fun f => Node.expr f.value).flatMap exprs := by
  induction fs with
  | nil => rfl
  | cons f fs ih =>
    obtain ⟨key, value⟩ := f
    simp [Expr.fieldNodes, exprs, ih]

theorem Expr.caseNodes_eq (cs : List MatchCase) :
    Expr.caseNodes cs = (cs.flatMap MatchCase.parts).flatMap exprs := by
  induction cs with
  | nil => rfl
  | cons c cs ih =>
    obtain ⟨pattern, guard, body⟩ := c
    cases guard <;> simp [Expr.caseNodes, MatchCase.parts, exprNode?, exprs, ih]

theorem Stmt.bodyNodes_eq (ss : List Stmt) :
    Stmt.bodyNodes ss = (ss.map Node.stmt).flatMap exprs := by
  induction ss with
  | nil => rfl
  | cons s ss ih => simp [Stmt.bodyNodes, exprs, ih]

theorem Stmt.caseNodes_eq (cs : List SwitchCase) :
    Stmt.caseNodes cs = (cs.flatMap SwitchCase.parts).flatMap exprs := by
  induction cs with
  | nil => rfl
  | cons c cs ih =>
    obtain ⟨value, body⟩ := c
    rw [Stmt.caseNodes, ih, Stmt.bodyNodes_eq, List.flatMap_cons, List.flatMap_append]
    rfl

theorem LambdaBody.nodes_eq (body : LambdaBody) : body.nodes = body.parts.flatMap exprs := by
  cases body with
  | expr e => simp [LambdaBody.nodes, LambdaBody.parts, exprs]
  | block ss => rw [LambdaBody.nodes, LambdaBody.parts, Stmt.bodyNodes_eq]

theorem Expr.nodes_eq (e : Expr) : e.nodes = e :: e.parts.flatMap exprs := by
  have hTypes (ts : List Ty) : (ts.map Node.ty).flatMap exprs = [] := by simp [exprs]
  have hParams (fs : List Field) : (fs.map Node.field).flatMap exprs = [] := by simp [exprs]
  cases e <;>
    simp only [Expr.nodes, Expr.parts, Expr.listNodes_eq, Expr.fieldNodes_eq, Expr.caseNodes_eq,
      Stmt.bodyNodes_eq, LambdaBody.nodes_eq, hTypes, hParams, List.flatMap_append,
      List.flatMap_cons, List.flatMap_nil, List.append_nil, List.nil_append, exprs]

theorem Stmt.nodes_eq (s : Stmt) : s.nodes = s.parts.flatMap exprs := by
  cases s <;>
    simp only [Stmt.nodes, Stmt.parts, Stmt.bodyNodes_eq, Stmt.caseNodes_eq, List.flatMap_append,
      List.flatMap_cons, List.flatMap_nil, List.append_nil, List.append_assoc, exprs]

/-! ## Parts are smaller -/

namespace Node

variable {m : Node}

theorem sizeOf_le_of_mem_map {α : Type} [SizeOf α] {f : α → Node} {xs : List α}
    (hSize : ∀ x, sizeOf (f x) ≤ sizeOf x + 1) (h : m ∈ xs.map f) : sizeOf m ≤ sizeOf xs := by
  obtain ⟨x, hx, rfl⟩ := List.mem_map.mp h
  have hElement := List.sizeOf_lt_of_mem hx
  have hNode := hSize x
  omega

theorem sizeOf_le_of_mem_flatMap {α : Type} [SizeOf α] {f : α → List Node} {xs : List α}
    (hSize : ∀ x, ∀ m ∈ f x, sizeOf m ≤ sizeOf x) (h : m ∈ xs.flatMap f) :
    sizeOf m ≤ sizeOf xs := by
  obtain ⟨x, hx, hm⟩ := List.mem_flatMap.mp h
  have hElement := List.sizeOf_lt_of_mem hx
  have hNode := hSize x m hm
  omega

theorem sizeOf_stmts {ss : List Stmt} (h : m ∈ ss.map stmt) : sizeOf m ≤ sizeOf ss :=
  sizeOf_le_of_mem_map (fun _ => by simp +arith) h

theorem sizeOf_list {es : List Expr} (h : m ∈ es.map expr) : sizeOf m ≤ sizeOf es :=
  sizeOf_le_of_mem_map (fun _ => by simp +arith) h

theorem sizeOf_object {fs : List ObjectField} (h : m ∈ fs.map fun f => expr f.value) :
    sizeOf m ≤ sizeOf fs :=
  sizeOf_le_of_mem_map (fun ⟨_, _⟩ => by simp +arith) h

theorem sizeOf_matchCases {cs : List MatchCase} (h : m ∈ cs.flatMap MatchCase.parts) :
    sizeOf m ≤ sizeOf cs := by
  refine sizeOf_le_of_mem_flatMap ?_ h
  rintro ⟨pattern, _ | guard, body⟩ m hm
  · obtain rfl := List.mem_singleton.mp hm
    simp +arith
  · rcases List.mem_cons.mp hm with rfl | hm
    · simp +arith
    · obtain rfl := List.mem_singleton.mp hm
      simp +arith

theorem sizeOf_switchCases {cs : List SwitchCase} (h : m ∈ cs.flatMap SwitchCase.parts) :
    sizeOf m ≤ sizeOf cs := by
  refine sizeOf_le_of_mem_flatMap ?_ h
  rintro ⟨value, body⟩ m hm
  rcases List.mem_cons.mp hm with rfl | hm
  · simp +arith
  · exact Nat.le_trans (sizeOf_stmts hm) (by simp +arith)

theorem sizeOf_lambdaBody {b : LambdaBody} (h : m ∈ b.parts) : sizeOf m ≤ sizeOf b := by
  cases b with
  | expr e =>
    obtain rfl := List.mem_singleton.mp h
    simp +arith
  | block ss => exact Nat.le_trans (sizeOf_stmts h) (by simp +arith)

theorem sizeOf_expr_part {e : Expr} (h : m ∈ e.parts) (hRuns : m.runs = true) :
    sizeOf m ≤ sizeOf e := by
  cases e with
  | int _ | float _ | string _ | bool _ | null | var _ => cases h
  | binary _ left right | pipe left right | index left right =>
    rcases List.mem_cons.mp h with rfl | h
    · simp +arith
    · obtain rfl := List.mem_singleton.mp h
      simp +arith
  | unary _ inner | field inner _ | await inner =>
    obtain rfl := List.mem_singleton.mp h
    simp +arith
  | call name typeArgs args =>
    rcases List.mem_append.mp h with h | h
    · obtain ⟨t, -, rfl⟩ := List.mem_map.mp h
      cases hRuns
    · exact Nat.le_trans (sizeOf_list h) (by simp +arith)
  | object fields => exact Nat.le_trans (sizeOf_object h) (by simp +arith)
  | array elements => exact Nat.le_trans (sizeOf_list h) (by simp +arith)
  | lambda params body =>
    rcases List.mem_append.mp h with h | h
    · obtain ⟨f, -, rfl⟩ := List.mem_map.mp h
      cases hRuns
    · exact Nat.le_trans (sizeOf_lambdaBody h) (by simp +arith)
  | matchOn value cases =>
    rcases List.mem_cons.mp h with rfl | h
    · simp +arith
    · exact Nat.le_trans (sizeOf_matchCases h) (by simp +arith)
  | async body => exact Nat.le_trans (sizeOf_stmts h) (by simp +arith)

theorem sizeOf_stmt_part {s : Stmt} (h : m ∈ s.parts) : sizeOf m ≤ sizeOf s := by
  cases s with
  | assign _ e | reassign _ e | ret e | expr e | validate e =>
    obtain rfl := List.mem_singleton.mp h
    simp +arith
  | cond condition thenBody elseBody =>
    rcases List.mem_cons.mp h with rfl | h
    · simp +arith
    · rcases List.mem_append.mp h with h | h
      · exact Nat.le_trans (sizeOf_stmts h) (by simp +arith)
      · exact Nat.le_trans (sizeOf_stmts h) (by simp +arith)
  | forEach _ _ e body | whileLoop e body =>
    rcases List.mem_cons.mp h with rfl | h
    · simp +arith
    · exact Nat.le_trans (sizeOf_stmts h) (by simp +arith)
  | switch value cases otherwise =>
    rcases List.mem_cons.mp h with rfl | h
    · simp +arith
    · rcases List.mem_append.mp h with h | h
      · exact Nat.le_trans (sizeOf_switchCases h) (by simp +arith)
      · exact Nat.le_trans (sizeOf_stmts h) (by simp +arith)
  | breakLoop | continueLoop => cases h

theorem part_of_case {value : Expr} {cases : List SwitchCase} {otherwise : List Stmt}
    {c : SwitchCase} (hc : c ∈ cases) (hm : m ∈ c.parts) :
    m ∈ (Stmt.switch value cases otherwise).parts :=
  List.mem_cons_of_mem _ (List.mem_append_left _ (List.mem_flatMap.mpr ⟨c, hc, hm⟩))

theorem stmt_part_of_case {value : Expr} {cases : List SwitchCase} {otherwise : List Stmt}
    {c : SwitchCase} (hc : c ∈ cases) {s : Stmt} (hs : s ∈ c.body) :
    stmt s ∈ (Stmt.switch value cases otherwise).parts :=
  part_of_case hc (List.mem_cons_of_mem _ (List.mem_map_of_mem hs))

/-- A property that a statement has if the statements directly inside it have it. -/
@[elab_as_elim] theorem stmt_induct {P : Stmt → Prop}
    (step : ∀ s, (∀ t, stmt t ∈ s.parts → P t) → P s) (s : Stmt) : P s := by
  refine step s fun t ht => ?_
  have hSize := sizeOf_stmt_part ht
  exact stmt_induct step t
termination_by sizeOf s
decreasing_by
  rw [stmt.sizeOf_spec] at hSize
  omega

/-! ## The nodes are what lies within -/

variable {e : Expr} {n : Node}

theorem mem_exprs_of_part (hPart : m ∈ n.parts) (h : e ∈ m.exprs) (hRuns : n.runs = true) :
    e ∈ n.exprs := by
  cases n with
  | expr root =>
    rw [exprs, Expr.nodes_eq]
    exact List.mem_cons_of_mem _ (List.mem_flatMap.mpr ⟨m, hPart, h⟩)
  | stmt s =>
    rw [exprs, Stmt.nodes_eq]
    exact List.mem_flatMap.mpr ⟨m, hPart, h⟩
  | ty _ | field _ => cases hRuns

theorem Within.mem_exprs (h : (expr e).Within n) (hRuns : n.runs = true) : e ∈ n.exprs := by
  induction h with
  | here =>
    rw [exprs, Expr.nodes_eq]
    exact List.mem_cons_self
  | part hPart hPlain _ ih => exact mem_exprs_of_part hPart (ih hPlain) hRuns

theorem runs_of_mem_exprs (h : e ∈ n.exprs) : n.runs = true := by
  cases n with
  | expr _ | stmt _ => rfl
  | ty _ | field _ => cases h

theorem within_of_mem_exprs {n : Node} (h : e ∈ n.exprs) : (expr e).Within n := by
  match n with
  | expr root =>
    rw [exprs, Expr.nodes_eq] at h
    rcases List.mem_cons.mp h with rfl | h
    · exact .here
    · obtain ⟨m, hPart, hMem⟩ := List.mem_flatMap.mp h
      have hRuns := runs_of_mem_exprs hMem
      have hSize := sizeOf_expr_part hPart hRuns
      exact .part hPart hRuns (within_of_mem_exprs hMem)
  | stmt s =>
    rw [exprs, Stmt.nodes_eq] at h
    obtain ⟨m, hPart, hMem⟩ := List.mem_flatMap.mp h
    have hSize := sizeOf_stmt_part hPart
    exact .part hPart (runs_of_mem_exprs hMem) (within_of_mem_exprs hMem)
  | ty _ | field _ => cases h
termination_by sizeOf n
decreasing_by
  all_goals
    simp only [expr.sizeOf_spec, stmt.sizeOf_spec]
    omega

theorem mem_flatMap_exprs_iff {roots : List Node} (hRuns : ∀ n ∈ roots, n.runs = true) :
    e ∈ roots.flatMap exprs ↔ ∃ n ∈ roots, (expr e).Within n := by
  constructor
  · intro h
    obtain ⟨n, hn, hMem⟩ := List.mem_flatMap.mp h
    exact ⟨n, hn, within_of_mem_exprs hMem⟩
  · rintro ⟨n, hn, hWithin⟩
    exact List.mem_flatMap.mpr ⟨n, hn, hWithin.mem_exprs (hRuns n hn)⟩

end Node

theorem Stmt.mem_bodyNodes_iff {e : Expr} {body : List Stmt} :
    e ∈ Stmt.bodyNodes body ↔ ∃ n ∈ body.map Node.stmt, (Node.expr e).Within n := by
  rw [Stmt.bodyNodes_eq]
  apply Node.mem_flatMap_exprs_iff
  intro n hn
  obtain ⟨s, -, rfl⟩ := List.mem_map.mp hn
  rfl

theorem LambdaBody.mem_nodes_iff {e : Expr} {body : LambdaBody} :
    e ∈ body.nodes ↔ ∃ n ∈ body.parts, (Node.expr e).Within n := by
  rw [LambdaBody.nodes_eq]
  apply Node.mem_flatMap_exprs_iff
  intro n hn
  cases body with
  | expr body =>
    obtain rfl := List.mem_singleton.mp hn
    rfl
  | block body =>
    obtain ⟨s, -, rfl⟩ := List.mem_map.mp hn
    rfl

end ServiceCompiler.Core
