import ServiceCompiler.Proofs.Source.Suite
import ServiceCompiler.Proofs.Target.PythonBody

/-! # Indentation of Python bodies

What is written ahead of a statement, its header and the lines under it keep to the indentation that
Python asks for. Only the edges of lines matter, so that names are the one thing to be assumed about
a body: what is quoted or stands in brackets can be anything. Main statement: a body that is written
into a buffer leaves no header without a line under it, and neither does a body in a section of a
program. -/

namespace ServiceCompiler.Python

open ServiceCompiler.Core (Expr Stmt MatchCase SwitchCase ObjectField Node)
open Plan (BodyContext Case Access)
open Source (Emit Line nested Suite additive_suite Buffer Stepped)
open Source.Emit (Yields line nest write fresh yields_pure yields_fresh yields_each yields_write
  yields_suite_line)
open Text (Edged edged_spell join doubleQuoted)

/-- The names at a node that a body spells as they are. Keys are quoted, and types are left out. -/
def spelledNames : Node → List String
  | .field param => [param.name]
  | .expr (.var name) | .expr (.field _ name) | .expr (.call name _ _) => [name]
  | .expr (.matchOn _ cases) =>
    cases.flatMap fun c => (Plan.patternBounds [] c.pattern).map (·.name)
  | .stmt (.assign target _) | .stmt (.reassign target _) => [target]
  | .stmt (.forEach key value _ _) => key.toList ++ [value]
  | _ => []

/-- The names at a node are not empty, do not begin with a blank and do not end in a colon, as no
identifier and no dotted name does. -/
def Named (n : Node) : Prop := ∀ x ∈ spelledNames n, Edged false x

instance : DecidablePred Named := fun n => inferInstanceAs (Decidable (∀ x ∈ spelledNames n, _))

/-! ## Texts -/

theorem edged_freshName (kind : String) (n : Nat) : Edged false s!"__{kind}_{n}" :=
  edged_spell [.lit _, .arg kind, .lit _, .arg (toString n)] rfl (Text.edged_nat n).closes

theorem edged_doubleQuoted (s : String) : Edged false (doubleQuoted s) :=
  Text.edged_quote (by decide) (by decide) s

theorem edged_floatText (x : Float) : Edged false (floatText x) := by
  unfold floatText
  split
  · decide
  · split <;> decide
  · exact Text.edged_render _ x

theorem edged_boolText (b : Bool) : Edged false (boolText b) := by
  cases b <;> decide

theorem edged_accessText (step : Access) : Edged false (accessText step) := by
  cases step <;> exact edged_spell [.lit _, .arg _, .lit _] rfl rfl

theorem edged_subjectAt (path : List Access) : Edged false (subjectAt path) := by
  induction path using List.reverseRecOn with
  | nil => decide
  | append_singleton path step ih =>
    rw [subjectAt_snoc]
    exact ih.append (edged_accessText step)

theorem edged_callText {name : String} (hName : Edged false name) (args : List Expr)
    {texts : List String} (hTexts : ∀ t ∈ texts, Edged false t) :
    Edged false (callText name args texts) := by
  unfold callText
  split
  · exact edged_spell [.arg _, .lit _, .arg name, .lit _, .arg _, .lit _]
      (hTexts _ List.mem_cons_self).opens rfl
  · exact edged_spell [.arg name, .lit _, .arg _, .lit _] hName.opens rfl

theorem edged_lambdaText (params value : String) : Edged false (lambdaText params value) := by
  unfold lambdaText
  split
  · exact edged_spell [.lit _, .arg value, .lit _] rfl rfl
  · exact edged_spell [.lit _, .arg params, .lit _, .arg value, .lit _] rfl rfl

theorem edged_returnText (ctx : BodyContext) {value : String} (hValue : Edged false value) :
    Edged false (returnText ctx value) := by
  unfold returnText
  split
  · exact edged_spell [.lit _, .arg value, .lit _] rfl rfl
  · exact edged_spell [.lit _, .arg value, .lit _] rfl rfl
  · exact edged_spell [.lit _, .arg value] rfl hValue.closes

theorem edged_validationText (ctx : BodyContext) : Edged false (validationText ctx) := by
  unfold validationText
  split <;> decide +kernel

/-- A dotted name begins as its first name does. -/
theorem edged_dottedName (e : Expr) (h : (Node.expr e).Throughout Named) {name : String}
    (hName : Plan.dottedName e = some name) : Edged false name := by
  match e with
  | .var x =>
    obtain rfl := Option.some.inj hName
    exact h.here x List.mem_cons_self
  | .field target x =>
    obtain ⟨base, hBase, rfl⟩ := Option.map_eq_some_iff.mp hName
    have hTarget := edged_dottedName target (h.part (by simp)) hBase
    exact edged_spell [.arg base, .lit _, .arg x] hTarget.opens (h.here x List.mem_cons_self).closes
  | .int _ | .float _ | .string _ | .bool _ | .null | .binary _ _ _ | .unary _ _ | .index _ _
  | .call _ _ _ | .object _ | .array _ | .lambda _ _ | .pipe _ _ | .matchOn _ _ | .async _
  | .await _ => cases hName

theorem edged_defText (awaits : Bool) : Edged false (defText awaits) := by
  cases awaits <;> decide

/-! ## Matches -/

/-- What is known of a case: the names that it binds, and the lines ahead of its guard and body. -/
structure CaseFits (c : Case (Emit String)) : Prop where
  bounds : ∀ b ∈ c.arm.bounds, Edged false b.name
  guard : ∀ g ∈ c.guard, Yields g (Edged false) (Suite 0)
  body : Yields c.body (Edged false) (Suite 0)

variable {c : Case (Emit String)}

theorem suite_answer {m : Emit String} (h : m.Yields (Edged false) (Suite 0)) :
    Yields (do line s!"return {← m}") (fun _ => True) (Suite 1) := by
  refine h.andThen additive_suite fun t ht => yields_suite_line ?_
  exact edged_spell [.lit _, .arg t] rfl ht.closes

theorem suite_armBody (hFits : CaseFits c) :
    (armBody c.arm).Yields (fun _ => True) (Suite 1) := by
  have hL := additive_suite
  refine (yields_each hL fun b hb => ?_).andThen hL fun _ _ => ?_
  · apply Yields.uncounted
    apply yields_suite_line
    exact edged_spell [.arg b.name, .lit _, .arg (subjectAt b.path)] (hFits.bounds b hb).opens
      (edged_subjectAt b.path).closes
  · cases hGuard : c.arm.guard with
    | none => exact suite_answer hFits.body
    | some guard =>
      refine (hFits.guard guard hGuard).andThen hL fun t _ => ?_
      exact (suite_answer hFits.body).suite_head (edged_spell [.lit _, .arg t, .lit _] rfl rfl)

theorem suite_armLines (hFits : CaseFits c) :
    (armLines c.arm).Yields (fun _ => True) (Suite 1) := by
  unfold armLines
  split
  · exact suite_armBody hFits
  · exact (suite_armBody hFits).suite_head (edged_spell [.lit _, .arg _, .lit _] rfl rfl)

theorem suite_planLines {cs : List (Case (Emit String))} (hFits : ∀ c ∈ cs, CaseFits c) :
    (planLines (Plan.planMatch cs)).Yields (fun _ => True) (Suite 1) := by
  have hL := additive_suite
  rw [Plan.planMatch_eq]
  refine (yields_each hL fun arm hArm => ?_).andThen hL fun _ _ => ?_
  · obtain ⟨c, hMem, rfl⟩ := List.mem_map.mp hArm
    exact (suite_armLines (hFits c (List.mem_of_mem_eraseP hMem))).uncounted
  · cases hDefault : cs.find? Case.isCatchAll with
    | none => exact yields_suite_line (by decide)
    | some c => exact suite_armBody (hFits c (List.mem_of_find?_eq_some hDefault))

/-! ## Expressions and statements -/

theorem suite_fresh (kind : String) : (fresh kind).Yields (Edged false) (Suite 0) :=
  yields_fresh additive_suite (edged_freshName kind)

/-- A function around lines that were captured before, and its last line. -/
theorem suite_captured {text answer name : String} {inner : List Line} (hText : Edged true text)
    (hInner : Suite 0 inner) (hAnswer : Edged false answer) (hName : Edged false name) :
    Yields (do line text; write (nested inner); nest (line answer); return name) (Edged false)
      (Suite 1) := by
  have hL := additive_suite
  rw [Source.Emit.head_captured]
  refine Yields.suite_head ?_ hText
  refine (yields_write hInner).andThen hL fun _ _ => ?_
  exact (yields_suite_line hAnswer).andLast hL fun _ _ => yields_pure hL hName

theorem suite_pipe (bare : Bool) {left right : Expr}
    (hNames : (Node.expr right).Throughout Named)
    (hLeft : (expr false left).Yields (Edged false) (Suite 0))
    (hRight : (expr false right).Yields (Edged false) (Suite 0))
    (hArgs : ∀ name typeArgs args, right = .call name typeArgs args →
      (exprs args).Yields (fun ts => ∀ t ∈ ts, Edged false t) (Suite 0)) :
    (expr bare (.pipe left right)).Yields (Edged false) (Suite 0) := by
  have hL := additive_suite
  by_cases hCall : ∃ name typeArgs args, right = .call name typeArgs args
  · obtain ⟨name, typeArgs, args, rfl⟩ := hCall
    have hName : Edged false name := hNames.here name List.mem_cons_self
    rw [expr]
    refine hLeft.andThen hL fun l _ => (hArgs _ _ _ rfl).andThen hL fun ts _ => ?_
    exact yields_pure hL (edged_spell [.arg name, .lit _, .arg _, .lit _] hName.opens rfl)
  · rw [expr]
    · cases hDotted : Plan.dottedName right with
      | some name =>
        have hName := edged_dottedName right hNames hDotted
        refine hLeft.andThen hL fun l _ => yields_pure hL ?_
        exact edged_spell [.arg name, .lit _, .arg l, .lit _] hName.opens rfl
      | none =>
        refine hRight.andThen hL fun r _ => hLeft.andThen hL fun l _ => yields_pure hL ?_
        exact edged_spell [.lit _, .arg r, .lit _, .arg l, .lit _] rfl rfl
    · rintro name typeArgs args rfl
      exact hCall ⟨name, typeArgs, args, rfl⟩

mutual

theorem suite_expr (bare : Bool) (e : Expr) (h : (Node.expr e).Throughout Named) :
    (expr bare e).Yields (Edged false) (Suite 0) := by
  have hL := additive_suite
  match e with
  | .int n =>
    rw [expr]
    exact yields_pure hL (Text.edged_int n.toInt)
  | .float x =>
    rw [expr]
    exact yields_pure hL (edged_floatText x)
  | .string s =>
    rw [expr]
    exact yields_pure hL (edged_doubleQuoted s)
  | .bool b =>
    rw [expr]
    exact yields_pure hL (edged_boolText b)
  | .null =>
    rw [expr]
    exact yields_pure hL (by decide)
  | .var name =>
    rw [expr]
    exact yields_pure hL (h.here name List.mem_cons_self)
  | .binary op left right =>
    have hLeft := suite_expr false left (h.part (by simp))
    have hRight := suite_expr false right (h.part (by simp))
    rw [expr]
    refine hLeft.andThen hL fun l _ => hRight.andThen hL fun r _ => yields_pure hL ?_
    exact edged_spell [.lit _, .arg l, .lit _, .arg _, .lit _, .arg r, .lit _] rfl rfl
  | .unary .not operand =>
    have hOperand := suite_expr false operand (h.part (by simp))
    rw [expr]
    refine hOperand.andThen hL fun t _ => yields_pure hL ?_
    exact edged_spell [.lit _, .arg t, .lit _] rfl rfl
  | .unary .neg operand =>
    have hOperand := suite_expr false operand (h.part (by simp))
    rw [expr]
    refine hOperand.andThen hL fun t ht => yields_pure hL ?_
    exact edged_spell [.lit _, .arg t] rfl ht.closes
  | .field target name =>
    have hTarget := suite_expr false target (h.part (by simp))
    have hName : Edged false name := h.here name List.mem_cons_self
    rw [expr]
    refine hTarget.andThen hL fun t ht => yields_pure hL ?_
    exact edged_spell [.arg t, .lit _, .arg name] ht.opens hName.closes
  | .index target position =>
    have hTarget := suite_expr false target (h.part (by simp))
    have hPosition := suite_expr false position (h.part (by simp))
    rw [expr]
    refine hTarget.andThen hL fun t ht => hPosition.andThen hL fun i _ => yields_pure hL ?_
    exact edged_spell [.arg t, .lit _, .arg i, .lit _] ht.opens rfl
  | .call name typeArgs args =>
    have hArgs := suite_exprs args fun a ha => h.part (by simp [ha])
    rw [expr]
    refine hArgs.andThen hL fun ts hts => yields_pure hL ?_
    exact edged_callText (h.here name List.mem_cons_self) args hts
  | .object fields =>
    have hFields := suite_objectFields fields fun f hf => h.part (List.mem_map_of_mem hf)
    rw [expr]
    refine hFields.andThen hL fun ts _ => yields_pure hL ?_
    exact edged_spell [.lit _, .arg (join ", " ts), .lit _] rfl rfl
  | .array elements =>
    have hElements := suite_exprs elements fun a ha => h.part (by simp [ha])
    rw [expr]
    refine hElements.andThen hL fun ts _ => yields_pure hL ?_
    exact edged_spell [.lit _, .arg (join ", " ts), .lit _] rfl rfl
  | .lambda params (.expr body) =>
    have hBody := suite_expr false body (h.part (by simp))
    rw [expr]
    refine (yields_nest hBody).capture hL |>.andThen hL ?_
    rintro ⟨t, ahead⟩ ⟨ht, inner, rfl, hInner⟩
    dsimp only
    split
    · exact yields_pure hL (edged_lambdaText _ t)
    · refine (suite_fresh "lambda").andThen hL fun name hName => ?_
      refine (suite_captured ?_ hInner ?_ hName).uncounted
      · exact edged_spell [.arg _, .lit _, .arg name, .lit _, .arg _, .lit _]
          (edged_defText _).opens rfl
      · exact edged_spell [.lit _, .arg t] rfl ht.closes
  | .lambda params (.block body) =>
    have hBody := suite_block .closure body fun s hs => h.part (by simp [hs])
    rw [expr]
    refine (suite_fresh "lambda").andThen hL fun name hName => ?_
    refine Yields.andThen hL (hBody.suite_head ?_).uncounted fun _ _ =>
      yields_pure hL hName
    exact edged_spell [.arg _, .lit _, .arg name, .lit _, .arg _, .lit _]
      (edged_defText _).opens rfl
  | .pipe left right =>
    exact suite_pipe bare (h.part (by simp)) (suite_expr false left (h.part (by simp)))
      (suite_expr false right (h.part (by simp))) (suite_callArgs right (h.part (by simp)))
  | .matchOn value cases =>
    have hValue := suite_expr false value (h.part (by simp))
    have hCases := fits_matchCases cases (fun m hm => h.part (List.mem_cons_of_mem _ hm)) h.here
    rw [expr]
    refine hValue.andThen hL fun v _ => (suite_fresh "match").andThen hL fun name hName => ?_
    refine Yields.andThen hL ((suite_planLines hCases).suite_head ?_).uncounted
      fun _ _ => yields_pure hL ?_
    · exact edged_spell [.arg _, .lit _, .arg name, .lit _] (edged_defText _).opens rfl
    · split
      · exact edged_spell [.lit _, .arg name, .lit _, .arg v, .lit _] rfl rfl
      · exact edged_spell [.arg name, .lit _, .arg v, .lit _] hName.opens rfl
  | .async body =>
    have hBody := suite_block .closure body fun s hs => h.part (by simp [hs])
    rw [expr]
    refine (suite_fresh "async").andThen hL fun name _ => ?_
    refine Yields.andThen hL (hBody.suite_head ?_).uncounted fun _ _ =>
      yields_pure hL ?_
    · exact edged_spell [.lit _, .arg name, .lit _] rfl rfl
    · exact edged_spell [.lit _, .arg name, .lit _] rfl rfl
  | .await inner =>
    have hInner := suite_expr false inner (h.part (by simp))
    rw [expr]
    refine hInner.andThen hL fun t ht => yields_pure hL ?_
    split
    · exact edged_spell [.lit _, .arg t] rfl ht.closes
    · exact edged_spell [.lit _, .arg t, .lit _] rfl rfl

theorem suite_callArgs (e : Expr) (h : (Node.expr e).Throughout Named) :
    ∀ name typeArgs args, e = .call name typeArgs args →
      (exprs args).Yields (fun ts => ∀ t ∈ ts, Edged false t) (Suite 0) := by
  match e with
  | .call _ _ args =>
    rintro _ _ _ ⟨⟩
    exact suite_exprs args fun a ha => h.part (by simp [ha])
  | .int _ | .float _ | .string _ | .bool _ | .null | .var _ | .binary _ _ _ | .unary _ _
  | .field _ _ | .index _ _ | .object _ | .array _ | .lambda _ _ | .pipe _ _ | .matchOn _ _
  | .async _ | .await _ => nofun

theorem suite_exprs (es : List Expr) (h : ∀ e ∈ es, (Node.expr e).Throughout Named) :
    (exprs es).Yields (fun ts => ∀ t ∈ ts, Edged false t) (Suite 0) := by
  have hL := additive_suite
  match es with
  | [] =>
    rw [exprs]
    exact yields_pure hL (by simp)
  | e :: es =>
    obtain ⟨hFirst, hRest⟩ := List.forall_mem_cons.mp h
    rw [exprs]
    refine (suite_expr false e hFirst).andThen hL fun t ht => ?_
    refine (suite_exprs es hRest).andThen hL fun ts hts => yields_pure hL ?_
    exact List.forall_mem_cons.mpr ⟨ht, hts⟩

theorem suite_objectFields (fs : List ObjectField)
    (h : ∀ f ∈ fs, (Node.expr f.value).Throughout Named) :
    (objectFields fs).Yields (fun _ => True) (Suite 0) := by
  have hL := additive_suite
  match fs with
  | [] =>
    rw [objectFields]
    exact yields_pure hL trivial
  | ⟨key, value⟩ :: fs =>
    obtain ⟨hFirst, hRest⟩ := List.forall_mem_cons.mp h
    rw [objectFields]
    refine (suite_expr false value hFirst).andThen hL fun t _ => ?_
    exact (suite_objectFields fs hRest).andThen hL fun ts _ => yields_pure hL trivial

theorem fits_matchCases (cs : List MatchCase)
    (h : ∀ m ∈ cs.flatMap MatchCase.parts, m.Throughout Named)
    (hNames : ∀ x ∈ cs.flatMap fun c => (Plan.patternBounds [] c.pattern).map (·.name),
      Edged false x) : ∀ c ∈ matchCases cs, CaseFits c := by
  match cs with
  | [] => rw [matchCases]; nofun
  | ⟨pattern, none, body⟩ :: cs =>
    rw [List.flatMap_cons, List.forall_mem_append] at h hNames
    rw [matchCases, List.forall_mem_cons]
    refine ⟨⟨fun b hb => hNames.1 _ (List.mem_map_of_mem hb), nofun, ?_⟩, ?_⟩
    · exact suite_expr true body (h.1 _ (by simp))
    · exact fits_matchCases cs h.2 hNames.2
  | ⟨pattern, some guard, body⟩ :: cs =>
    rw [List.flatMap_cons, List.forall_mem_append] at h hNames
    rw [matchCases, List.forall_mem_cons]
    have hGuard := suite_expr false guard (h.1 _ (by simp))
    refine ⟨⟨fun b hb => hNames.1 _ (List.mem_map_of_mem hb), ?_, ?_⟩, ?_⟩
    · rintro _ ⟨⟩
      exact hGuard
    · exact suite_expr true body (h.1 _ (by simp))
    · exact fits_matchCases cs h.2 hNames.2

theorem suite_stmt (ctx : BodyContext) (s : Stmt) (h : (Node.stmt s).Throughout Named) :
    (stmt ctx s).Yields (fun _ => True) (Suite 1) := by
  have hL := additive_suite
  match s with
  | .assign target value | .reassign target value =>
    have hTarget : Edged false target := h.here target List.mem_cons_self
    rw [stmt]
    refine (suite_expr true value (h.part (by simp))).andThen hL fun t ht => yields_suite_line ?_
    exact edged_spell [.arg target, .lit _, .arg t] hTarget.opens ht.closes
  | .ret value =>
    rw [stmt]
    refine (suite_expr true value (h.part (by simp))).andThen hL fun t ht => ?_
    exact yields_suite_line (edged_returnText ctx ht)
  | .cond condition thenBody elseBody =>
    have hCondition := suite_expr true condition (h.part (by simp))
    have hThen := suite_block ctx thenBody fun s hs => h.part (by simp [hs])
    have hElse := suite_block ctx elseBody fun s hs => h.part (by simp [hs])
    rw [stmt_cond]
    refine hCondition.andThen hL fun t _ => ?_
    refine Yields.andLast hL (hThen.suite_head ?_) fun _ _ => ?_
    · exact edged_spell [.lit _, .arg t, .lit _] rfl rfl
    · cases elseBody with
      | nil => exact yields_pure hL trivial
      | cons s ss => exact (hElse.suite_head (by decide)).uncounted
  | .forEach key value iterable body =>
    have hIterable := suite_expr false iterable (h.part (by simp))
    have hBody := suite_block ctx body fun s hs => h.part (by simp [hs])
    rw [stmt]
    refine hIterable.andThen hL fun t _ => hBody.suite_head ?_
    cases key with
    | some key =>
      exact edged_spell [.lit _, .arg key, .lit _, .arg value, .lit _, .arg t, .lit _] rfl rfl
    | none => exact edged_spell [.lit _, .arg value, .lit _, .arg t, .lit _] rfl rfl
  | .whileLoop condition body =>
    have hCondition := suite_expr true condition (h.part (by simp))
    have hBody := suite_block ctx body fun s hs => h.part (by simp [hs])
    rw [stmt]
    refine hCondition.andThen hL fun t _ => hBody.suite_head ?_
    exact edged_spell [.lit _, .arg t, .lit _] rfl rfl
  | .switch value cases otherwise =>
    have hValue := suite_expr true value (h.part (by simp))
    have hParts : ∀ m ∈ cases.flatMap SwitchCase.parts, m.Throughout Named :=
      fun m hm => h.part (List.mem_cons_of_mem _ (List.mem_append_left _ hm))
    have hOther := suite_caseBlock ctx otherwise fun s hs => h.part (by simp [hs])
    rw [stmt_switch]
    refine (suite_fresh "switch").andThen hL fun subject hSubject => ?_
    refine hValue.andThen hL fun t ht => ?_
    refine (suite_caseLabels cases hParts).andThen hL fun labels _ => ?_
    refine (yields_suite_line ?_).andLast hL fun _ _ => ?_
    · exact edged_spell [.arg subject, .lit _, .arg t] hSubject.opens ht.closes
    refine (suite_caseLines ctx cases hParts labels subject (.inl rfl)).andThen hL fun _ _ => ?_
    split
    · exact yields_pure hL trivial
    · exact yields_pure hL trivial
    · split
      · exact hOther.uncounted
      · exact (hOther.suite_head (by decide)).uncounted
  | .expr value =>
    have hValue := suite_expr true value (h.part (by simp))
    by_cases hNull : value = .null
    · rw [hNull, stmt]
      exact yields_suite_line (by decide)
    · rw [stmt]
      · exact hValue.andThen hL fun t ht => yields_suite_line ht
      · exact hNull
  | .validate call =>
    have hCall := suite_expr false call (h.part (by simp))
    rw [stmt]
    refine hCall.andThen hL fun t _ => (yields_suite_line (edged_validationText ctx)).suite_head ?_
    exact edged_spell [.lit _, .arg t, .lit _] rfl rfl
  | .breakLoop =>
    rw [stmt]
    exact yields_suite_line (by decide)
  | .continueLoop =>
    rw [stmt]
    exact yields_suite_line (by decide)

theorem suite_block (ctx : BodyContext) (ss : List Stmt)
    (h : ∀ s ∈ ss, (Node.stmt s).Throughout Named) :
    (block ctx ss).Yields (fun _ => True) (Suite 1) := by
  match ss with
  | [] =>
    rw [block]
    exact yields_suite_line (by decide)
  | s :: ss =>
    obtain ⟨hFirst, hRest⟩ := List.forall_mem_cons.mp h
    rw [block]
    exact (suite_stmt ctx s hFirst).andLast additive_suite fun _ _ => suite_stmts ctx ss hRest

theorem suite_stmts (ctx : BodyContext) (ss : List Stmt)
    (h : ∀ s ∈ ss, (Node.stmt s).Throughout Named) :
    (stmts ctx ss).Yields (fun _ => True) (Suite 0) := by
  have hL := additive_suite
  match ss with
  | [] =>
    rw [stmts]
    exact yields_pure hL trivial
  | s :: ss =>
    obtain ⟨hFirst, hRest⟩ := List.forall_mem_cons.mp h
    rw [stmts]
    refine (suite_stmt ctx s hFirst).uncounted.andThen hL fun _ _ => ?_
    exact suite_stmts ctx ss hRest

/-- A body that loses its `break` still has a line. -/
theorem suite_caseBlock (ctx : BodyContext) (ss : List Stmt)
    (h : ∀ s ∈ ss, (Node.stmt s).Throughout Named) :
    (caseBlock ctx ss).Yields (fun _ => True) (Suite 1) := by
  match ss with
  | [] =>
    rw [caseBlock]
    exact yields_suite_line (by decide)
  | s :: ss =>
    obtain ⟨hFirst, hRest⟩ := List.forall_mem_cons.mp h
    have hStmt := suite_stmt ctx s hFirst
    have hStmts := suite_caseStmts ctx ss hRest
    by_cases hBreak : s = .breakLoop ∧ ss = []
    · rw [hBreak.1, hBreak.2, caseBlock]
      exact yields_suite_line (by decide)
    · rw [caseBlock]
      · exact hStmt.andLast additive_suite fun _ _ => hStmts
      · exact fun hs hss => hBreak ⟨hs, hss⟩

theorem suite_caseStmts (ctx : BodyContext) (ss : List Stmt)
    (h : ∀ s ∈ ss, (Node.stmt s).Throughout Named) :
    (caseStmts ctx ss).Yields (fun _ => True) (Suite 0) := by
  have hL := additive_suite
  match ss with
  | [] =>
    rw [caseStmts]
    exact yields_pure hL trivial
  | s :: ss =>
    obtain ⟨hFirst, hRest⟩ := List.forall_mem_cons.mp h
    have hStmt := suite_stmt ctx s hFirst
    have hStmts := suite_caseStmts ctx ss hRest
    by_cases hBreak : s = .breakLoop ∧ ss = []
    · rw [hBreak.1, hBreak.2, caseStmts]
      exact yields_pure hL trivial
    · rw [caseStmts]
      · exact hStmt.uncounted.andThen hL fun _ _ => hStmts
      · exact fun hs hss => hBreak ⟨hs, hss⟩

theorem suite_caseLabels (cs : List SwitchCase)
    (h : ∀ m ∈ cs.flatMap SwitchCase.parts, m.Throughout Named) :
    (caseLabels cs).Yields (fun _ => True) (Suite 0) := by
  have hL := additive_suite
  match cs with
  | [] =>
    rw [caseLabels]
    exact yields_pure hL trivial
  | ⟨value, body⟩ :: cs =>
    rw [List.flatMap_cons, List.forall_mem_append] at h
    have hValue := suite_expr false value (h.1 _ (by simp))
    rw [caseLabels]
    refine hValue.andThen hL fun t _ => ?_
    exact (suite_caseLabels cs h.2).andThen hL fun labels _ => yields_pure hL trivial

theorem suite_caseLines (ctx : BodyContext) (cs : List SwitchCase)
    (h : ∀ m ∈ cs.flatMap SwitchCase.parts, m.Throughout Named) (labels : List String)
    (subject : String) {keyword : String} (hKeyword : keyword = "if" ∨ keyword = "elif") :
    (caseLines ctx subject keyword cs labels).Yields (fun _ => True) (Suite 0) := by
  have hL := additive_suite
  match cs, labels with
  | [], _ =>
    rw [caseLines]
    · exact yields_pure hL trivial
    · nofun
  | _ :: _, [] =>
    rw [caseLines]
    · exact yields_pure hL trivial
    · nofun
  | ⟨value, body⟩ :: cs, label :: labels =>
    rw [List.flatMap_cons, List.forall_mem_append] at h
    have hBody := suite_caseBlock ctx body fun s hs => h.1 _ (by simp [hs])
    have hMore := suite_caseLines ctx cs h.2 labels subject (.inr rfl)
    rw [caseLines]
    refine Yields.andThen hL (hBody.suite_head ?_).uncounted fun _ _ => hMore
    -- the header begins with the keyword, so its first character has to be known
    rcases hKeyword with rfl | rfl
    · exact edged_spell [.lit _, .lit _, .arg subject, .lit _, .arg label, .lit _] rfl rfl
    · exact edged_spell [.lit _, .lit _, .arg subject, .lit _, .arg label, .lit _] rfl rfl

end

/-! ## Bodies in a buffer -/

/-- A body that is written into a buffer leaves its depth and its lines as they are and puts rows
behind them, at least one: the first at the depth of the buffer, none less deep or empty, and right
under every row that ends in a colon one that is deeper by one. Such rows stand in the section of a
program that writes the body, right behind what the section has written before it and from the depth
on at which it is nested there. -/
theorem block_stands_indented (ctx : BodyContext) (body : List Stmt)
    (h : ∀ s ∈ body, (Node.stmt s).Throughout Named) (n : Nat) (b : Buffer) :
    (∃ rows, rows ≠ [] ∧ Stepped b.depth rows ∧ b.write (block ctx body n).lines = b.put rows) ∧
    ∀ unit depth front back, ∃ rows after, rows ≠ [] ∧ Stepped depth rows ∧
      Source.sectionTexts unit (front ++ nested^[depth] (block ctx body n).lines ++ back) =
        Source.sectionTexts unit front ++ rows.map (Source.Row.render unit) ++ after := by
  obtain ⟨-, hBlocked, hSome⟩ := suite_block ctx body h n
  have hRows {rows : List Source.Row} (hLength : rows.length = (block ctx body n).lines.length) :
      rows ≠ [] := by
    rw [← List.length_pos_iff, hLength]
    exact hSome
  constructor
  · obtain ⟨rows, hLength, hStepped, hWrite⟩ := hBlocked.write b
    exact ⟨rows, hRows hLength, hStepped, hWrite⟩
  · intro unit depth front back
    obtain ⟨rows, after, hLength, hStepped, hTexts⟩ := hBlocked.sectionTexts unit depth front back
    exact ⟨rows, after, hRows hLength, hStepped, hTexts⟩

/-- A body with headers of every kind: functions ahead of a line inside of each other, a case that
loses its only statement, and loops and branches without statements. -/
def dispatch : List Stmt :=
  [.assign "handler" (.lambda [] (.expr (.matchOn (.var "job")
      [⟨.object [⟨"the kind:", some (.literal (.string "mail:"))⟩, ⟨"to", none⟩],
          some (.lambda [] (.block [])), .call "mail.send" [] [.var "to"]⟩,
        ⟨.wildcard, none, .async [.forEach (some "i") "x" (.var "jobs") []]⟩]))),
    .switch (.field (.var "job") "kind")
      [⟨.string "a:", [.breakLoop]⟩, ⟨.string "b", [.validate (.call "check" [] []), .breakLoop]⟩]
      [.whileLoop (.bool true) [], .cond (.var "done") [] [.ret (.unary .neg (.int ⟨1⟩))]],
    .expr .null]

theorem block_stands_indented_dispatch :
    (∀ s ∈ dispatch, (Node.stmt s).Throughout Named) ∧
      ∃ rows, rows ≠ [] ∧ Stepped 1 rows ∧
        (Buffer.mk "    " 1 ["def run(job):"]).write (block .function dispatch 0).lines =
          (Buffer.mk "    " 1 ["def run(job):"]).put rows := by
  have hNamed : ∀ s ∈ dispatch, (Node.stmt s).Throughout Named :=
    Node.body_of_check 8 (by decide +kernel)
  have hStands := block_stands_indented .function dispatch hNamed 0 ⟨"    ", 1, ["def run(job):"]⟩
  exact ⟨hNamed, hStands.1⟩

end ServiceCompiler.Python
