import Mathlib.Data.List.Perm.Subperm
import ServiceCompiler.Proofs.Target.RustBody

/-! # Default values in calls of Rust

A call that leaves out arguments is written with the default values of their parameters, and a
default value is written like any other, with the default values that its own calls leave out. The
environment of a service goes down only so far. Main statement: where no default value comes to be
filled in for itself, that is as far as it takes, so the environment writes a default value the way
it writes every value. -/

namespace ServiceCompiler.Plan

open ServiceCompiler.Core (Expr)

/-- The name under which an expression calls a function, and how many arguments it gives. -/
def calledWith? : Expr → Option (String × Nat)
  | .call name _ args =>
    match classify name args with
    | .function name args => some (name, args.length)
    | .method _ _ _ => none
  | .pipe left right =>
    match pipeCall left right with
    | .call name args => some (name, args.length)
    | .apply _ _ => none
  | _ => none

/-- The default values of the parameters behind the given ones. The last callable of a name
counts. -/
def defaultsBehind (cs : List Callable) (name : String) (given : Nat) : List Expr :=
  match cs.reverse.find? (·.name == name) with
  | some c => (c.params.drop given).filterMap (·.default)
  | none => []

/-- The default values that are filled in for an expression itself, not for one inside it. -/
def leftOut (cs : List Callable) (e : Expr) : List Expr :=
  match calledWith? e with
  | some (name, given) => defaultsBehind cs name given
  | none => []

/-- The default values that are filled in for expressions, and for the default values filled in. -/
inductive FilledIn (cs : List Callable) (nodes : List Expr) : Expr → Prop
  | here {e value : Expr} (hNode : e ∈ nodes) (hValue : value ∈ leftOut cs e) :
      FilledIn cs nodes value
  | within {outer e value : Expr} (hOuter : FilledIn cs nodes outer) (hNode : e ∈ outer.nodes)
      (hValue : value ∈ leftOut cs e) : FilledIn cs nodes value

/-- No default value that is filled in for the expressions is filled in for itself. -/
def Settled (cs : List Callable) (nodes : List Expr) : Prop :=
  ∀ value, FilledIn cs nodes value → ¬ FilledIn cs value.nodes value

variable {cs : List Callable} {nodes : List Expr} {value : Expr}

theorem not_filledIn (h : ∀ e ∈ nodes, leftOut cs e = []) : ¬ FilledIn cs nodes value := by
  intro hFilled
  induction hFilled with
  | here hNode hValue =>
    rw [h _ hNode] at hValue
    cases hValue
  | within _ _ _ ih => exact ih

/-- Where the default values that are filled in leave out nothing themselves, there is an end. -/
theorem settled_of_complete
    (h : ∀ e ∈ nodes, ∀ value ∈ leftOut cs e, ∀ d ∈ value.nodes, leftOut cs d = []) :
    Settled cs nodes := by
  intro value hFilled
  apply not_filledIn
  induction hFilled with
  | here hNode hValue => exact h _ hNode _ hValue
  | within _ hNode hValue ih =>
    rw [ih _ hNode] at hValue
    cases hValue

end ServiceCompiler.Plan

namespace ServiceCompiler.Rust

open ServiceCompiler.Core (Expr Stmt MatchCase SwitchCase ObjectField LambdaBody Field)
open Plan (Callable leftOut defaultsBehind FilledIn Settled)
open Source (Emit)
open Source.Emit (collect)

variable {env : Env} {fill other : Scope → Expr → Emit String}

/-- The same environment with another way to write default values. -/
def Env.filling (env : Env) (fill : Scope → Expr → Emit String) : Env :=
  { env with default := fill }

/-- Default values that two ways to write them write alike. -/
def Alike (fill other : Scope → Expr → Emit String) (values : List Expr) : Prop :=
  ∀ value ∈ values, ∀ sc, fill sc value = other sc value

/-! ## Calls -/

theorem bind_congr_value {α β : Type} {m : Emit α} {f g : α → Emit β}
    (h : ∀ n, f (m n).value = g (m n).value) : m >>= f = m >>= g := by
  funext n
  simp only [Source.Emit.bind_apply, h]

theorem length_exprs (env : Env) (sc : Scope) (es : List Expr) (n : Nat) :
    (exprs env sc es n).value.length = es.length := by
  induction es generalizing n with
  | nil =>
    rw [exprs]
    rfl
  | cons e es ih =>
    rw [exprs]
    simp [ih]

theorem missing_filling (sc : Scope) (params : List Field)
    (h : Alike fill other (params.filterMap (·.default))) :
    (env.filling fill).missing sc params = (env.filling other).missing sc params := by
  induction params with
  | nil => rfl
  | cons p params ih =>
    simp only [Env.missing] at ih ⊢
    cases hDefault : p.default with
    | none =>
      rw [List.filterMap_cons_none hDefault] at h
      simp only [collect, hDefault, ih h]
    | some value =>
      rw [List.filterMap_cons_some hDefault] at h
      obtain ⟨hValue, hMore⟩ := List.forall_mem_cons.mp h
      have hSame : (env.filling fill).default sc value = (env.filling other).default sc value :=
        hValue sc
      simp only [collect, hDefault, hSame, ih hMore]

theorem call_filling (sc : Scope) (name : String) (args : List String)
    (h : Alike fill other (defaultsBehind env.callables name args.length)) :
    (env.filling fill).call sc name args = (env.filling other).call sc name args := by
  have hCallable (any : Scope → Expr → Emit String) :
      (env.filling any).callable? name = env.callable? name := rfl
  simp only [Env.call, hCallable]
  cases hFound : env.callable? name with
  | none => rfl
  | some c =>
    have hBehind : defaultsBehind env.callables name args.length =
        (c.params.drop args.length).filterMap (·.default) := by
      rw [Env.callable?] at hFound
      rw [defaultsBehind, hFound]
    simp only [missing_filling sc _ (hBehind ▸ h)]
    rfl

theorem closureArg_filling (sc : Scope) (name : String) {es : List Expr}
    (hLambda : ∀ params body, es = [.lambda params body] →
      lambda (env.filling fill) sc params body = lambda (env.filling other) sc params body) :
    closureArg (env.filling fill) sc name es = closureArg (env.filling other) sc name es := by
  by_cases hOnly : ∃ params body, es = [.lambda params body]
  · obtain ⟨params, body, rfl⟩ := hOnly
    rw [closureArg, closureArg, hLambda params body rfl]
  · have hOther (params : List Field) (body : LambdaBody) (hSame : es = [.lambda params body]) :
        False := hOnly ⟨params, body, hSame⟩
    rw [closureArg, closureArg]
    all_goals exact hOther

theorem function_filling (sc : Scope) {name : String} {target : Expr} {rest : List Expr}
    (h : Alike fill other (defaultsBehind env.callables name (rest.length + 1)))
    (hTarget : expr (env.filling fill) sc target = expr (env.filling other) sc target)
    (hRest : exprs (env.filling fill) sc rest = exprs (env.filling other) sc rest) :
    (do
      let target ← expr (env.filling fill) sc target
      let rest ← exprs (env.filling fill) sc rest
      return Term.value (← (env.filling fill).call sc name (target.owned :: rest))) =
    (do
      let target ← expr (env.filling other) sc target
      let rest ← exprs (env.filling other) sc rest
      return Term.value (← (env.filling other).call sc name (target.owned :: rest))) := by
  rw [hTarget, hRest]
  refine bind_congr fun t => bind_congr_value fun n => ?_
  rw [call_filling]
  simpa [length_exprs] using h

theorem pipe_filling (sc : Scope) {left right : Expr}
    (h : Alike fill other (leftOut env.callables (.pipe left right)))
    (hLeft : expr (env.filling fill) sc left = expr (env.filling other) sc left)
    (hArgs : ∀ name typeArgs args, right = .call name typeArgs args →
      exprs (env.filling fill) sc args = exprs (env.filling other) sc args)
    (hLambda : ∀ params body, right = .lambda params body →
      lambda (env.filling fill) sc params body = lambda (env.filling other) sc params body) :
    expr (env.filling fill) sc (.pipe left right) =
      expr (env.filling other) sc (.pipe left right) := by
  by_cases hNamed : ∃ name typeArgs args, right = .call name typeArgs args
  · obtain ⟨name, typeArgs, args, rfl⟩ := hNamed
    rw [expr, expr]
    exact function_filling sc h hLeft (hArgs _ _ _ rfl)
  by_cases hClosure : ∃ params body, right = .lambda params body
  · obtain ⟨params, body, rfl⟩ := hClosure
    rw [expr, expr, hLambda _ _ rfl, hLeft]
  have hNoCall (name : String) (typeArgs : List Core.Ty) (args : List Expr)
      (hSame : right = .call name typeArgs args) : False := hNamed ⟨name, typeArgs, args, hSame⟩
  have hNoLambda (params : List Field) (body : LambdaBody) (hSame : right = .lambda params body) :
      False := hClosure ⟨params, body, hSame⟩
  rw [expr, expr, hLeft]
  · refine bind_congr fun t => ?_
    cases hDotted : Plan.dottedName right with
    | none => rfl
    | some name =>
      rw [leftOut, Plan.calledWith?, Plan.pipeCall_of_dottedName hDotted] at h
      simp only [call_filling sc name [t.owned] h]
  any_goals exact hNoCall
  all_goals exact hNoLambda

/-! ## Expressions and statements

What is written depends on the way to write default values only where a call leaves one out. -/

mutual

theorem expr_filling (sc : Scope) (e : Expr)
    (h : ∀ d ∈ e.nodes, Alike fill other (leftOut env.callables d)) :
    expr (env.filling fill) sc e = expr (env.filling other) sc e := by
  match e with
  | .int _ | .float _ | .string _ | .bool _ | .null | .lambda _ _ => rw [expr, expr]
  | .var name =>
    rw [expr, expr]
    rfl
  | .binary op left right =>
    simp only [Expr.nodes, List.forall_mem_cons, List.forall_mem_append] at h
    rw [expr, expr, expr_filling sc left h.2.1, expr_filling sc right h.2.2]
  | .unary .neg operand | .unary .not operand =>
    simp only [Expr.nodes, List.forall_mem_cons] at h
    rw [expr, expr, expr_filling sc operand h.2]
  | .field target name =>
    simp only [Expr.nodes, List.forall_mem_cons] at h
    rw [expr, expr, expr_filling sc target h.2]
  | .index target position =>
    simp only [Expr.nodes, List.forall_mem_cons, List.forall_mem_append] at h
    rw [expr, expr, expr_filling sc target h.2.1, expr_filling sc position h.2.2]
  | .call name typeArgs [] =>
    simp only [Expr.nodes, List.forall_mem_cons] at h
    rw [expr, expr, call_filling sc name [] h.1]
  | .call name typeArgs (target :: rest) =>
    simp only [Expr.nodes, Expr.listNodes, List.forall_mem_cons, List.forall_mem_append] at h
    have hTarget := expr_filling sc target h.2.1
    have hRest := exprs_filling sc rest h.2.2
    have hClosure := closureArg_filling sc name (lambdaIn_filling sc rest h.2.2)
    rw [expr, expr]
    cases hShape : Plan.classify name (target :: rest) with
    | function called args =>
      obtain ⟨rfl, rfl⟩ := Plan.classify_eq_function hShape
      have hHere := h.1
      rw [leftOut, Plan.calledWith?, hShape] at hHere
      exact function_filling sc hHere hTarget hRest
    | method receiver called args =>
      cases receiver? sc target with
      | some found => simp only [hRest]
      | none => simp only [hTarget, hClosure, hRest]
  | .object fields =>
    simp only [Expr.nodes, List.forall_mem_cons] at h
    rw [expr, expr, objectFields_filling sc fields h.2]
  | .array elements =>
    simp only [Expr.nodes, List.forall_mem_cons] at h
    rw [expr, expr, exprs_filling sc elements h.2]
  | .pipe left right =>
    simp only [Expr.nodes, List.forall_mem_cons, List.forall_mem_append] at h
    exact pipe_filling sc h.1 (expr_filling sc left h.2.1) (callArgs_filling sc right h.2.2)
      (lambdaOf_filling sc right h.2.2)
  | .matchOn value cases =>
    simp only [Expr.nodes, List.forall_mem_cons, List.forall_mem_append] at h
    rw [expr, expr, expr_filling sc value h.2.1, matchCases_filling sc cases h.2.2]
    rfl
  | .async body =>
    simp only [Expr.nodes, List.forall_mem_cons] at h
    rw [expr, expr, stmts_filling (sc.inner .closure body) body h.2]
  | .await inner =>
    simp only [Expr.nodes, List.forall_mem_cons] at h
    rw [expr, expr, expr_filling sc inner h.2]

theorem exprs_filling (sc : Scope) (es : List Expr)
    (h : ∀ d ∈ Expr.listNodes es, Alike fill other (leftOut env.callables d)) :
    exprs (env.filling fill) sc es = exprs (env.filling other) sc es := by
  match es with
  | [] => rw [exprs, exprs]
  | e :: es =>
    simp only [Expr.listNodes, List.forall_mem_append] at h
    rw [exprs, exprs, expr_filling sc e h.1, exprs_filling sc es h.2]

theorem objectFields_filling (sc : Scope) (fs : List ObjectField)
    (h : ∀ d ∈ Expr.fieldNodes fs, Alike fill other (leftOut env.callables d)) :
    objectFields (env.filling fill) sc fs = objectFields (env.filling other) sc fs := by
  match fs with
  | [] => rw [objectFields, objectFields]
  | ⟨key, value⟩ :: fs =>
    simp only [Expr.fieldNodes, List.forall_mem_append] at h
    rw [objectFields, objectFields, expr_filling sc value h.1, objectFields_filling sc fs h.2]

theorem callArgs_filling (sc : Scope) (e : Expr)
    (h : ∀ d ∈ e.nodes, Alike fill other (leftOut env.callables d)) :
    ∀ name typeArgs args, e = .call name typeArgs args →
      exprs (env.filling fill) sc args = exprs (env.filling other) sc args := by
  match e with
  | .call _ _ args =>
    simp only [Expr.nodes, List.forall_mem_cons] at h
    rintro _ _ _ ⟨⟩
    exact exprs_filling sc args h.2
  | .int _ | .float _ | .string _ | .bool _ | .null | .var _ | .binary _ _ _ | .unary _ _
  | .field _ _ | .index _ _ | .object _ | .array _ | .lambda _ _ | .pipe _ _ | .matchOn _ _
  | .async _ | .await _ => nofun

theorem lambdaOf_filling (sc : Scope) (e : Expr)
    (h : ∀ d ∈ e.nodes, Alike fill other (leftOut env.callables d)) :
    ∀ params body, e = .lambda params body →
      lambda (env.filling fill) sc params body = lambda (env.filling other) sc params body := by
  match e with
  | .lambda params (.expr body) =>
    simp only [Expr.nodes, LambdaBody.nodes, List.forall_mem_cons] at h
    rintro _ _ ⟨⟩
    rw [lambda, lambda, expr_filling sc body h.2]
  | .lambda params (.block body) =>
    simp only [Expr.nodes, LambdaBody.nodes, List.forall_mem_cons] at h
    rintro _ _ ⟨⟩
    rw [lambda, lambda, stmts_filling (sc.inner .closure body) body h.2]
  | .int _ | .float _ | .string _ | .bool _ | .null | .var _ | .binary _ _ _ | .unary _ _
  | .field _ _ | .index _ _ | .call _ _ _ | .object _ | .array _ | .pipe _ _ | .matchOn _ _
  | .async _ | .await _ => nofun

theorem lambdaIn_filling (sc : Scope) (es : List Expr)
    (h : ∀ d ∈ Expr.listNodes es, Alike fill other (leftOut env.callables d)) :
    ∀ params body, es = [.lambda params body] →
      lambda (env.filling fill) sc params body = lambda (env.filling other) sc params body := by
  match es with
  | [] | _ :: _ :: _ => nofun
  | [e] =>
    simp only [Expr.listNodes, List.append_nil] at h
    intro params body hOnly
    exact lambdaOf_filling sc e h params body (List.cons.inj hOnly).1

theorem matchCases_filling (sc : Scope) (cs : List MatchCase)
    (h : ∀ d ∈ Expr.caseNodes cs, Alike fill other (leftOut env.callables d)) :
    matchCases (env.filling fill) sc cs = matchCases (env.filling other) sc cs := by
  match cs with
  | [] => rw [matchCases, matchCases]
  | ⟨pattern, none, body⟩ :: cs =>
    simp only [Expr.caseNodes, List.forall_mem_append] at h
    rw [matchCases, matchCases, expr_filling sc body h.1, matchCases_filling sc cs h.2]
  | ⟨pattern, some guard, body⟩ :: cs =>
    simp only [Expr.caseNodes, List.forall_mem_append] at h
    rw [matchCases, matchCases, expr_filling sc guard h.1.1, expr_filling sc body h.1.2,
      matchCases_filling sc cs h.2]

theorem stmt_filling (sc : Scope) (s : Stmt)
    (h : ∀ d ∈ s.nodes, Alike fill other (leftOut env.callables d)) :
    stmt (env.filling fill) sc s = stmt (env.filling other) sc s := by
  match s with
  | .assign target value =>
    rw [Stmt.nodes] at h
    by_cases hClosure : ∃ params body, value = .lambda params body
    · obtain ⟨params, body, rfl⟩ := hClosure
      rw [stmt, stmt, lambdaOf_filling sc _ h params body rfl]
    · have hPlain (params : List Field) (body : LambdaBody) (hSame : value = .lambda params body) :
          False := hClosure ⟨params, body, hSame⟩
      rw [stmt, stmt, expr_filling sc value h]
      all_goals exact hPlain
  | .reassign target value | .ret value | .validate value =>
    rw [Stmt.nodes] at h
    rw [stmt, stmt, expr_filling sc value h]
  | .cond condition thenBody elseBody =>
    simp only [Stmt.nodes, List.forall_mem_append] at h
    simp only [stmt_cond, expr_filling sc condition h.1.1, stmts_filling sc thenBody h.1.2]
    cases elseBody with
    | nil => rfl
    | cons s ss => simp only [stmts_filling (sc.knowing (closuresOf thenBody)) (s :: ss) h.2]
  | .forEach key value iterable body =>
    simp only [Stmt.nodes, List.forall_mem_append] at h
    rw [stmt, stmt, expr_filling sc iterable h.1, stmts_filling sc body h.2]
  | .whileLoop condition body =>
    simp only [Stmt.nodes, List.forall_mem_append] at h
    rw [stmt, stmt, expr_filling sc condition h.1, stmts_filling sc body h.2]
  | .switch value cases otherwise =>
    simp only [Stmt.nodes, List.forall_mem_append] at h
    have hOther := stmts_filling (sc.knowing (closuresOfCases cases)) otherwise h.2
    simp only [stmt_switch, expr_filling sc value h.1.1, caseLabels_filling sc cases h.1.2,
      caseLines_filling sc cases h.1.2, hOther]
    cases otherwise with
    | nil => rfl
    | cons s ss => simp only [hOther]
  | .expr value =>
    rw [Stmt.nodes] at h
    by_cases hNull : value = .null
    · rw [hNull, stmt, stmt]
    · rw [stmt, stmt, expr_filling sc value h]
      all_goals exact hNull
  | .breakLoop | .continueLoop => rw [stmt, stmt]

theorem stmts_filling (sc : Scope) (ss : List Stmt)
    (h : ∀ d ∈ Stmt.bodyNodes ss, Alike fill other (leftOut env.callables d)) :
    stmts (env.filling fill) sc ss = stmts (env.filling other) sc ss := by
  match ss with
  | [] => rw [stmts, stmts]
  | s :: ss =>
    simp only [Stmt.bodyNodes, List.forall_mem_append] at h
    rw [stmts, stmts, stmt_filling sc s h.1, stmts_filling _ ss h.2]

theorem caseStmts_filling (sc : Scope) (ss : List Stmt)
    (h : ∀ d ∈ Stmt.bodyNodes ss, Alike fill other (leftOut env.callables d)) :
    caseStmts (env.filling fill) sc ss = caseStmts (env.filling other) sc ss := by
  match ss with
  | [] => rw [caseStmts, caseStmts]
  | s :: ss =>
    simp only [Stmt.bodyNodes, List.forall_mem_append] at h
    by_cases hBreak : s = .breakLoop ∧ ss = []
    · rw [hBreak.1, hBreak.2, caseStmts, caseStmts]
    · have hMore (hStmt : s = .breakLoop) (hLast : ss = []) : False := hBreak ⟨hStmt, hLast⟩
      rw [caseStmts, caseStmts, stmt_filling sc s h.1, caseStmts_filling _ ss h.2]
      all_goals exact hMore

theorem caseLabels_filling (sc : Scope) (cs : List SwitchCase)
    (h : ∀ d ∈ Stmt.caseNodes cs, Alike fill other (leftOut env.callables d)) :
    caseLabels (env.filling fill) sc cs = caseLabels (env.filling other) sc cs := by
  match cs with
  | [] => rw [caseLabels, caseLabels]
  | ⟨value, body⟩ :: cs =>
    simp only [Stmt.caseNodes, List.forall_mem_append] at h
    rw [caseLabels, caseLabels, expr_filling sc value h.1.1, caseLabels_filling sc cs h.2]

theorem caseLines_filling (sc : Scope) (cs : List SwitchCase)
    (h : ∀ d ∈ Stmt.caseNodes cs, Alike fill other (leftOut env.callables d))
    (subject keyword : String) (labels : List String) :
    caseLines (env.filling fill) sc subject keyword cs labels =
      caseLines (env.filling other) sc subject keyword cs labels := by
  match cs, labels with
  | [], _ | _ :: _, [] =>
    rw [caseLines, caseLines]
    all_goals nofun
  | ⟨value, body⟩ :: cs, label :: labels =>
    simp only [Stmt.caseNodes, List.forall_mem_append] at h
    rw [caseLines, caseLines, caseStmts_filling sc body h.1.2, caseLines_filling _ cs h.2]

end

/-! ## Depth -/

def defaults (cs : List Callable) : List Expr := (cs.flatMap (·.params)).filterMap (·.default)

theorem length_defaults (cs : List Callable) : (defaults cs).length = defaultCount cs :=
  List.length_filterMap_eq_countP

theorem leftOut_subset_defaults (cs : List Callable) (e : Expr) : leftOut cs e ⊆ defaults cs := by
  intro value hValue
  unfold leftOut defaultsBehind at hValue
  split at hValue
  · split at hValue
    · rename_i c hFound
      have hCallable : c ∈ cs := List.mem_reverse.mp (List.mem_of_find?_eq_some hFound)
      obtain ⟨p, hParam, hDefault⟩ := List.mem_filterMap.mp hValue
      refine List.mem_filterMap.mpr ⟨p, List.mem_flatMap.mpr ⟨c, hCallable, ?_⟩, hDefault⟩
      exact List.mem_of_mem_drop hParam
    · cases hValue
  · cases hValue

variable {cs : List Callable} {nodes above : List Expr} {value : Expr}

theorem mem_defaults (h : FilledIn cs nodes value) : value ∈ defaults cs := by
  cases h with
  | here _ hValue => exact leftOut_subset_defaults cs _ hValue
  | within _ _ hValue => exact leftOut_subset_defaults cs _ hValue

/-- A default value on its way down: it is filled in within each of those above it, and these are
different ones. -/
structure Below (cs : List Callable) (nodes above : List Expr) (value : Expr) : Prop where
  filled : FilledIn cs nodes value
  within : ∀ outer ∈ above, FilledIn cs nodes outer ∧ FilledIn cs outer.nodes value
  nodup : above.Nodup

theorem Below.nodup_cons (h : Below cs nodes above value) (hSettled : Settled cs nodes) :
    (value :: above).Nodup := by
  refine List.nodup_cons.mpr ⟨fun hMem => ?_, h.nodup⟩
  exact hSettled value h.filled (h.within value hMem).2

theorem Below.step (h : Below cs nodes above value) (hSettled : Settled cs nodes) {e inner : Expr}
    (hNode : e ∈ value.nodes) (hInner : inner ∈ leftOut cs e) :
    Below cs nodes (value :: above) inner where
  filled := h.filled.within hNode hInner
  within := by
    refine List.forall_mem_cons.mpr ⟨⟨h.filled, .here hNode hInner⟩, fun outer hOuter => ?_⟩
    obtain ⟨hFilled, hWithin⟩ := h.within outer hOuter
    exact ⟨hFilled, .within hWithin hNode hInner⟩
  nodup := h.nodup_cons hSettled

theorem Below.length_lt (h : Below cs nodes above value) (hSettled : Settled cs nodes) :
    above.length < defaultCount cs := by
  have hListed : value :: above ⊆ defaults cs := by
    refine List.cons_subset.mpr ⟨mem_defaults h.filled, fun outer hOuter => ?_⟩
    exact mem_defaults (h.within outer hOuter).1
  have hLength := ((h.nodup_cons hSettled).subperm hListed).length_le
  rwa [length_defaults, List.length_cons] at hLength

theorem nested_eq_filling (env : Env) (n : Nat) :
    env.nested n = env.filling (env.nested n).default := by
  cases n <;> rfl

/-- One level more changes nothing for a default value if the levels, with those above it, are as
many as there are default values. -/
theorem default_nested_succ (hSettled : Settled env.callables nodes) (n : Nat)
    (h : Below env.callables nodes above value)
    (hDepth : defaultCount env.callables ≤ n + above.length) (sc : Scope) :
    (env.nested n).default sc value = (env.nested (n + 1)).default sc value := by
  have hLess := h.length_lt hSettled
  induction n generalizing above value sc with
  | zero => omega
  | succ n ih =>
    change (do return (← expr (env.nested n) sc value).owned) =
      (do return (← expr (env.nested (n + 1)) sc value).owned)
    rw [nested_eq_filling env n, nested_eq_filling env (n + 1), expr_filling]
    intro e hNode inner hInner scope
    have hInnerBelow := h.step hSettled hNode hInner
    refine ih hInnerBelow ?_ scope (hInnerBelow.length_lt hSettled)
    rw [List.length_cons]
    omega

/-- The environment of a service writes a default value like any other value. -/
theorem default_of {s : Core.Service} (hSettled : Settled (Plan.callables s) nodes)
    (hFilled : FilledIn (Plan.callables s) nodes value) (sc : Scope) :
    (Env.of s).default sc value = do return (← expr (Env.of s) sc value).owned := by
  have hDepth : defaultCount (Plan.callables s) ≤ defaultDepth (Plan.callables s) :=
    Nat.le_mul_of_pos_right _ (Nat.succ_pos _)
  exact default_nested_succ hSettled _ ⟨hFilled, List.forall_mem_nil _, List.nodup_nil⟩ hDepth sc

end ServiceCompiler.Rust
