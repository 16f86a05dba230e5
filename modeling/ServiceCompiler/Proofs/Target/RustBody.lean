import ServiceCompiler.Proofs.Target.RustLines

/-! # Phrases in Rust bodies

Which lines of an emitted body hold `.await` or the text of a response on the wire. Main statements:
where nothing suspends, nothing awaits, and the lines with a response are the returns and the
validations of a route and its end. -/

namespace ServiceCompiler.Rust

open ServiceCompiler.Core (Expr Stmt MatchCase SwitchCase ObjectField LambdaBody Field Node)
open Plan (BodyContext Case Callable)
open Source (Emit Line Mentioning mentioning)
open Source.Emit (Yields line nest capture write fresh braces yields_pure yields_write)
open Text (Mentions Phrase join doubleQuoted)
open Text.Phrase (Segment Filled spell clear_template clear_fixed)

variable {p : Phrase} {env : Env} {sc : Scope}

/-! ## Closures and pipes -/

theorem yields_lambdaExpr (hp : p ∈ phrases) {params : List Field}
    (hParams : ∀ f ∈ params, p.Clear f.name) {body : Expr}
    (hBody : (expr env sc body).Yields (Clean p) (Mentioning [p.text] 0)) :
    (lambda env sc params (.expr body)).Yields p.Clear (Mentioning [p.text] 0) := by
  have hL := additive_lines p
  have hStart : p.Clear s!"|{paramsText params}| -> Value" :=
    clear_template hp [.lit _, .arg (paramsText params), .lit _] rfl
      ⟨clear_paramsText hp hParams, trivial⟩
  rw [lambda]
  refine (hBody.nest.capture hL).andThen hL ?_
  rintro ⟨t, ahead⟩ ⟨ht, hAhead⟩
  have hValue := ht.owned hp
  dsimp only
  split
  · exact yields_pure hL (clear_template hp [.arg _, .lit _, .arg t.owned, .lit _] rfl
      ⟨hStart, hValue, trivial⟩)
  · refine (yields_freshName hp "lambda" (by decide) (by decide)).andThen hL fun name hName => ?_
    refine (yields_line ?_).andThen hL fun _ _ => (yields_write hAhead).andThen hL fun _ _ => ?_
    · exact clear_template hp [.lit _, .arg name, .lit _, .arg _, .lit _] rfl
        ⟨hName, hStart, trivial⟩
    refine (yields_line hValue).nest.andThen hL fun _ _ => ?_
    exact (yields_line (clear_fixed hp rfl)).andThen hL fun _ _ => yields_pure hL hName

/-- The statements of a body that runs on its own, and its end. -/
theorem yields_closureBody (hp : p ∈ phrases) {body : List Stmt}
    (hBody : (stmts env (sc.inner .closure body) body).Yields (fun _ => True)
      (Mentioning [p.text] ((Stmt.bodyFlow body).countP (due p .closure)))) :
    Yields (do stmts env (sc.inner .closure body) body; tailLine .closure body) (fun _ => True)
      (Mentioning [p.text] 0) :=
  (hBody.measure (countP_due_closure _)).andThen (additive_lines p) fun _ _ => by
    simpa [responses, BodyContext.status?] using yields_tail hp .closure body

theorem yields_lambdaBlock (hp : p ∈ phrases) {params : List Field}
    (hParams : ∀ f ∈ params, p.Clear f.name) {body : List Stmt}
    (hBody : (stmts env (sc.inner .closure body) body).Yields (fun _ => True)
      (Mentioning [p.text] ((Stmt.bodyFlow body).countP (due p .closure)))) :
    (lambda env sc params (.block body)).Yields p.Clear (Mentioning [p.text] 0) := by
  have hL := additive_lines p
  rw [lambda]
  refine (yields_freshName hp "lambda" (by decide) (by decide)).andThen hL fun name hName => ?_
  refine (yields_braces hp ?_ rfl (yields_closureBody hp hBody)).andThen hL fun _ _ =>
    yields_pure hL hName
  exact clear_template hp [.lit _, .arg name, .lit _, .arg (paramsText params),
    .lit _, .lit _] rfl ⟨hName, clear_paramsText hp hParams, trivial⟩

theorem yields_closureArg (name : String) {es : List Expr}
    (hLambda : ∀ params body, es = [.lambda params body] →
      (lambda env sc params body).Yields p.Clear (Mentioning [p.text] 0)) :
    (closureArg env sc name es).Yields
      (fun o => ∀ closure ∈ o, takesClosure name = true ∧ p.Clear closure)
      (Mentioning [p.text] 0) := by
  have hL := additive_lines p
  by_cases hOnly : ∃ params body, es = [.lambda params body]
  · obtain ⟨params, body, rfl⟩ := hOnly
    rw [closureArg]
    split
    · rename_i hTakes
      refine (hLambda params body rfl).andThen hL fun t ht => yields_pure hL ?_
      rintro _ ⟨⟩
      exact ⟨hTakes, ht⟩
    · exact yields_pure hL nofun
  · rw [closureArg]
    · exact yields_pure hL nofun
    · rintro params body rfl
      exact hOnly ⟨params, body, rfl⟩

theorem yields_pipe (hp : p ∈ phrases) (hEnv : Sound p env) (hSc : Alone p sc) {left right : Expr}
    (hCalls : ∀ x ∈ Plan.calledName? (.pipe left right), p.Clear (x ++ "("))
    (hRests : p = awaiting → Plan.suspends env.asyncNames (.pipe left right) = false)
    (hLeft : (expr env sc left).Yields (Clean p) (Mentioning [p.text] 0))
    (hArgs : ∀ name typeArgs args, right = .call name typeArgs args →
      (exprs env sc args).Yields (fun ts => ∀ t ∈ ts, p.Clear t) (Mentioning [p.text] 0))
    (hLambda : ∀ params body, right = .lambda params body →
      (lambda env sc params body).Yields p.Clear (Mentioning [p.text] 0)) :
    (expr env sc (.pipe left right)).Yields (Clean p) (Mentioning [p.text] 0) := by
  have hL := additive_lines p
  have hCall {name : String} (hName : Plan.calledName? (.pipe left right) = some name)
      {args : List String} (hTexts : ∀ t ∈ args, p.Clear t) :
      Yields (do return Term.value (← env.call sc name args)) (Clean p) (Mentioning [p.text] 0) :=
    (yields_call hp hEnv hSc (hCalls name hName)
      (fun hAwaiting => Plan.not_mem_of_suspends (hRests hAwaiting) hName) hTexts).andThen hL
      fun t ht => yields_pure hL ht
  by_cases hNamed : ∃ name typeArgs args, right = .call name typeArgs args
  · obtain ⟨name, typeArgs, args, rfl⟩ := hNamed
    rw [expr]
    refine hLeft.andThen hL fun l hl => (hArgs _ _ _ rfl).andThen hL fun ts hts => ?_
    exact hCall rfl (List.forall_mem_cons.mpr ⟨hl.owned hp, hts⟩)
  by_cases hClosure : ∃ params body, right = .lambda params body
  · obtain ⟨params, body, rfl⟩ := hClosure
    rw [expr]
    refine (hLambda _ _ rfl).andThen hL fun f hf => hLeft.andThen hL fun l hl => ?_
    exact yields_pure hL (clear_template hp [.lit _, .arg f, .lit _, .arg l.owned, .lit _] rfl
      ⟨hf, hl.owned hp, trivial⟩)
  rw [expr]
  · refine hLeft.andThen hL fun l hl => ?_
    cases hDotted : Plan.dottedName right with
    | some name =>
      exact hCall (Plan.calledName?_of_dottedName hDotted)
        (List.forall_mem_singleton.mpr (hl.owned hp))
    | none =>
      exact yields_pure hL (clear_template hp [.lit _, .arg l.owned, .lit _]
        rfl ⟨hl.owned hp, trivial⟩)
  · rintro name typeArgs args rfl
    exact hNamed ⟨name, typeArgs, args, rfl⟩
  · rintro params body rfl
    exact hClosure ⟨params, body, rfl⟩

theorem yields_methodCall (hp : p ∈ phrases) {name : String} (hName : p.Clear name)
    {target : Expr} {rest : List Expr}
    (hTarget : (expr env sc target).Yields (Clean p) (Mentioning [p.text] 0))
    (hRest : (exprs env sc rest).Yields (fun ts => ∀ t ∈ ts, p.Clear t) (Mentioning [p.text] 0))
    (hLambda : ∀ params body, rest = [.lambda params body] →
      (lambda env sc params body).Yields p.Clear (Mentioning [p.text] 0)) :
    Yields (do
        let target ← expr env sc target
        match ← closureArg env sc name rest with
        | some closure => return .value s!"rt::{name}({target.borrowed}, {closure})"
        | none =>
          let rest ← exprs env sc rest
          return .value (methodCall target name rest))
      (Clean p) (Mentioning [p.text] 0) := by
  have hL := additive_lines p
  refine hTarget.andThen hL fun t ht => ?_
  refine (yields_closureArg name hLambda).andThen hL fun closure hClosure => ?_
  cases closure with
  | some closure =>
    obtain ⟨hTakes, hText⟩ := hClosure closure rfl
    exact yields_pure hL (clear_closureCall hp hTakes (ht.borrowed hp) hText)
  | none =>
    refine hRest.andThen hL fun ts hts => yields_pure hL ?_
    exact clear_methodCall hp ht hName hts

/-! ## Expressions and statements -/

theorem stmt_cond (env : Env) (sc : Scope) (condition : Expr) (thenBody elseBody : List Stmt) :
    stmt env sc (.cond condition thenBody elseBody) = (do
      let condition ← expr env sc condition
      line s!"if {condition.tested} \x7b"
      nest (stmts env sc thenBody)
      match elseBody with
      | [] => line "\x7d"
      | s :: ss =>
        line "\x7d else \x7b"
        nest (stmts env (sc.knowing (closuresOf thenBody)) (s :: ss))
        line "\x7d") :=
  stmt.eq_def _ _ _

theorem stmt_switch (env : Env) (sc : Scope) (value : Expr) (cases : List SwitchCase)
    (otherwise : List Stmt) :
    stmt env sc (.switch value cases otherwise) = (do
      let value ← expr env sc value
      let subject ← fresh "switch"
      let labels ← caseLabels env sc cases
      line s!"let {subject} = {value.owned};"
      caseLines env sc subject "if" cases labels
      if cases.isEmpty then stmts env (sc.knowing (closuresOfCases cases)) otherwise
      else do
        match otherwise with
        | [] => pure ()
        | s :: ss =>
          line "\x7d else \x7b"
          nest (stmts env (sc.knowing (closuresOfCases cases)) (s :: ss))
        line "\x7d") :=
  stmt.eq_def _ _ _

mutual

theorem yields_expr (hp : p ∈ phrases) (hEnv : Sound p env) (sc : Scope)
    (hSc : Alone p sc) (e : Expr)
    (h : (Node.expr e).Throughout (Spelled p)) (hRest : Resting p env.asyncNames e.nodes) :
    (expr env sc e).Yields (Clean p) (Mentioning [p.text] 0) := by
  have hL := additive_lines p
  match e with
  | .int n =>
    rw [expr]
    exact yields_pure hL (clear_json hp (Text.Phrase.clear_int (wordy_of_mem hp) n.toInt))
  | .float x =>
    rw [expr]
    exact yields_pure hL (clear_floatText hp x)
  | .string s =>
    rw [expr]
    exact yields_pure hL
      (clear_json hp (clear_doubleQuoted hp (h.here.strings s List.mem_cons_self)))
  | .bool b =>
    rw [expr]
    exact yields_pure hL (clear_boolText hp b)
  | .null =>
    rw [expr]
    exact yields_pure hL (clear_fixed hp rfl)
  | .var name =>
    rw [expr]
    exact yields_pure hL (clean_varTerm hp (h.here.names name List.mem_cons_self))
  | .binary op left right =>
    simp only [Expr.nodes, resting_cons, resting_append] at hRest
    have hLeft := yields_expr hp hEnv sc hSc left (h.part (by simp)) hRest.2.1
    have hRight := yields_expr hp hEnv sc hSc right (h.part (by simp)) hRest.2.2
    rw [expr]
    refine hLeft.andThen hL fun l hl => hRight.andThen hL fun r hr => ?_
    exact yields_pure hL (clean_binaryTerm hp op hl hr)
  | .unary .neg operand =>
    simp only [Expr.nodes, resting_cons] at hRest
    have hOperand := yields_expr hp hEnv sc hSc operand (h.part (by simp)) hRest.2
    rw [expr]
    refine hOperand.andThen hL fun t ht => yields_pure hL ?_
    exact clear_template hp [.lit _, .arg t.borrowed, .lit _] rfl
      ⟨ht.borrowed hp, trivial⟩
  | .unary .not operand =>
    simp only [Expr.nodes, resting_cons] at hRest
    have hOperand := yields_expr hp hEnv sc hSc operand (h.part (by simp)) hRest.2
    rw [expr]
    refine hOperand.andThen hL fun t ht => yields_pure hL ?_
    exact clear_template hp [.lit _, .arg t.atom] rfl ⟨ht.atom hp, trivial⟩
  | .field target name =>
    simp only [Expr.nodes, resting_cons] at hRest
    have hTarget := yields_expr hp hEnv sc hSc target (h.part (by simp)) hRest.2
    have hName := clear_doubleQuoted hp (h.here.names name List.mem_cons_self).not_mentions
    rw [expr]
    split
    · exact yields_pure hL (clear_fixed hp rfl)
    · refine hTarget.andThen hL fun t ht => yields_pure hL ?_
      exact clear_template hp [.lit _, .arg t.borrowed, .lit _,
        .arg (doubleQuoted name), .lit _] rfl ⟨ht.borrowed hp, hName, trivial⟩
  | .index target position =>
    simp only [Expr.nodes, resting_cons, resting_append] at hRest
    have hTarget := yields_expr hp hEnv sc hSc target (h.part (by simp)) hRest.2.1
    have hPosition := yields_expr hp hEnv sc hSc position (h.part (by simp)) hRest.2.2
    rw [expr]
    refine hTarget.andThen hL fun t ht => hPosition.andThen hL fun i hi => yields_pure hL ?_
    exact clear_template hp [.lit _, .arg t.borrowed, .lit _, .arg i.borrowed,
      .lit _] rfl ⟨ht.borrowed hp, hi.borrowed hp, trivial⟩
  | .call name typeArgs [] =>
    simp only [Expr.nodes, resting_cons] at hRest
    rw [expr]
    exact (yields_call hp hEnv hSc (h.here.calls name rfl)
      (fun hAwaiting => Plan.not_mem_of_suspends (hRest.1 hAwaiting) rfl)
      (List.forall_mem_nil _)).andThen hL fun t ht => yields_pure hL ht
  | .call name typeArgs (target :: rest) =>
    simp only [Expr.nodes, Expr.listNodes, resting_cons, resting_append] at hRest
    have hTarget := yields_expr hp hEnv sc hSc target (h.part (by simp)) hRest.2.1
    have hArgs := yields_exprs hp hEnv sc hSc rest (fun a ha => h.part (by simp [ha])) hRest.2.2
    have hLambda := yields_lambdaIn hp hEnv sc hSc rest (fun a ha => h.part (by simp [ha]))
      hRest.2.2
    have hName := h.here.names name List.mem_cons_self
    rw [expr]
    split
    · rename_i hShape
      have hCalled := h.here.calls name (Plan.calledFunction?_of_classify hShape typeArgs)
      refine hTarget.andThen hL fun t ht => hArgs.andThen hL fun ts hts => ?_
      exact (yields_call hp hEnv hSc hCalled
        (fun hAwaiting => Plan.not_mem_of_suspends (hRest.1 hAwaiting) rfl)
        (List.forall_mem_cons.mpr ⟨ht.owned hp, hts⟩)).andThen hL fun t ht => yields_pure hL ht
    · rename_i hReceiver
      obtain ⟨rfl, hPath⟩ := eq_wire_of_receiver hp hSc hReceiver
      have hNames := (h.part (m := .expr target) (by simp)).mono fun _ hSpelled => hSpelled.names
      obtain ⟨hRoot, hFields⟩ := Plan.spelling_providerPath target hNames hPath
      refine hArgs.andThen hL fun ts hts => yields_pure hL ?_
      exact clear_providerCall hRoot hFields hName hts
    · exact yields_methodCall hp hName hTarget hArgs hLambda
  | .object fields =>
    simp only [Expr.nodes, resting_cons] at hRest
    have hFields := yields_objectFields hp hEnv sc hSc fields
      (fun f hf => h.part (List.mem_map_of_mem hf))
      (fun f hf => h.here.names f.key (List.mem_map_of_mem hf)) hRest.2
    rw [expr]
    exact hFields.andThen hL fun ts hts => yields_pure hL (clear_objectText hp hts)
  | .array elements =>
    simp only [Expr.nodes, resting_cons] at hRest
    have hElements := yields_exprs hp hEnv sc hSc elements (fun a ha => h.part (by simp [ha]))
      hRest.2
    rw [expr]
    refine hElements.andThen hL fun ts hts => yields_pure hL (clear_json hp ?_)
    exact clear_template hp [.lit _, .arg (join ", " ts), .lit _] rfl
      ⟨clear_list hp hts, trivial⟩
  | .lambda _ _ =>
    rw [expr]
    exact yields_pure hL (clear_fixed hp rfl)
  | .pipe left right =>
    simp only [Expr.nodes, resting_cons, resting_append] at hRest
    exact yields_pipe hp hEnv hSc (h.here.calls) hRest.1
      (yields_expr hp hEnv sc hSc left (h.part (by simp)) hRest.2.1)
      (yields_callArgs hp hEnv sc hSc right (h.part (by simp)) hRest.2.2)
      (yields_lambdaOf hp hEnv sc hSc right (h.part (by simp)) hRest.2.2)
  | .matchOn value cases =>
    simp only [Expr.nodes, resting_cons, resting_append] at hRest
    have hValue := yields_expr hp hEnv sc hSc value (h.part (by simp)) hRest.2.1
    have hCases := fit_matchCases hp hEnv sc hSc cases
      (fun m hm => h.part (List.mem_cons_of_mem _ hm))
      h.here.names h.here.strings hRest.2.2
    rw [expr]
    refine hValue.andThen hL fun v hv => ?_
    exact (yields_matchText hp _ (hv.owned hp) hCases).andThen hL fun t ht => yields_pure hL ht
  | .async body =>
    simp only [Expr.nodes, resting_cons] at hRest
    -- an async block suspends, so the phrase looked for is not the awaiting one
    have hWire : p ∈ [wire] := (List.mem_cons.mp hp).resolve_left fun hAwaiting =>
      absurd (hRest.1 hAwaiting) Bool.true_eq_false.mp
    have hBody := yields_stmts hp hEnv (sc.inner .closure body) hSc body
      (fun s hs => h.part (by simp [hs])) hRest.2
    rw [expr]
    refine (yields_freshName hp "async" (by decide) (by decide)).andThen hL fun name hName => ?_
    refine (yields_braces hp ?_ rfl (yields_closureBody hp hBody)).andThen hL
      fun _ _ => yields_pure hL ?_
    · exact clear_template hp [.lit _, .arg name, .lit _, .lit _] rfl
        ⟨hName, trivial⟩
    · exact clear_template hWire [.arg name, .lit _] rfl ⟨hName, trivial⟩
  | .await inner =>
    simp only [Expr.nodes, resting_cons] at hRest
    have hInner := yields_expr hp hEnv sc hSc inner (h.part (by simp)) hRest.2
    rw [expr]
    exact hInner.andThen hL fun t ht => yields_pure hL (ht.owned hp)

/-- The arguments of a call that stands on the right of a pipe. -/
theorem yields_callArgs (hp : p ∈ phrases) (hEnv : Sound p env) (sc : Scope)
    (hSc : Alone p sc) (e : Expr)
    (h : (Node.expr e).Throughout (Spelled p)) (hRest : Resting p env.asyncNames e.nodes) :
    ∀ name typeArgs args, e = .call name typeArgs args →
      (exprs env sc args).Yields (fun ts => ∀ t ∈ ts, p.Clear t) (Mentioning [p.text] 0) := by
  match e with
  | .call _ _ args =>
    simp only [Expr.nodes, resting_cons] at hRest
    rintro _ _ _ ⟨⟩
    exact yields_exprs hp hEnv sc hSc args (fun a ha => h.part (by simp [ha])) hRest.2
  | .int _ | .float _ | .string _ | .bool _ | .null | .var _ | .binary _ _ _ | .unary _ _
  | .field _ _ | .index _ _ | .object _ | .array _ | .lambda _ _ | .pipe _ _ | .matchOn _ _
  | .async _ | .await _ => nofun

/-- An expression that is written as a closure where one is asked for. -/
theorem yields_lambdaOf (hp : p ∈ phrases) (hEnv : Sound p env) (sc : Scope)
    (hSc : Alone p sc) (e : Expr)
    (h : (Node.expr e).Throughout (Spelled p)) (hRest : Resting p env.asyncNames e.nodes) :
    ∀ params body, e = .lambda params body →
      (lambda env sc params body).Yields p.Clear (Mentioning [p.text] 0) := by
  match e with
  | .lambda params (.expr body) =>
    simp only [Expr.nodes, LambdaBody.nodes, resting_cons] at hRest
    have hParams : ∀ f ∈ params, p.Clear f.name := fun f hf =>
      (h.part (m := .field f) (by simp [hf])).here.names f.name List.mem_cons_self
    rintro _ _ ⟨⟩
    exact yields_lambdaExpr hp hParams (yields_expr hp hEnv sc hSc body (h.part (by simp)) hRest.2)
  | .lambda params (.block body) =>
    simp only [Expr.nodes, LambdaBody.nodes, resting_cons] at hRest
    have hParams : ∀ f ∈ params, p.Clear f.name := fun f hf =>
      (h.part (m := .field f) (by simp [hf])).here.names f.name List.mem_cons_self
    rintro _ _ ⟨⟩
    exact yields_lambdaBlock hp hParams
      (yields_stmts hp hEnv (sc.inner .closure body) hSc body (fun s hs => h.part (by simp [hs]))
        hRest.2)
  | .int _ | .float _ | .string _ | .bool _ | .null | .var _ | .binary _ _ _ | .unary _ _
  | .field _ _ | .index _ _ | .call _ _ _ | .object _ | .array _ | .pipe _ _ | .matchOn _ _
  | .async _ | .await _ => nofun

theorem yields_lambdaIn (hp : p ∈ phrases) (hEnv : Sound p env) (sc : Scope)
    (hSc : Alone p sc) (es : List Expr)
    (h : ∀ e ∈ es, (Node.expr e).Throughout (Spelled p))
    (hRest : Resting p env.asyncNames (Expr.listNodes es)) :
    ∀ params body, es = [.lambda params body] →
      (lambda env sc params body).Yields p.Clear (Mentioning [p.text] 0) := by
  match es with
  | [] | _ :: _ :: _ => nofun
  | [e] =>
    simp only [Expr.listNodes, List.append_nil] at hRest
    have hLambda := yields_lambdaOf hp hEnv sc hSc e (h e List.mem_cons_self) hRest
    intro params body hOnly
    exact hLambda params body (List.cons.inj hOnly).1

theorem yields_exprs (hp : p ∈ phrases) (hEnv : Sound p env) (sc : Scope)
    (hSc : Alone p sc) (es : List Expr)
    (h : ∀ e ∈ es, (Node.expr e).Throughout (Spelled p))
    (hRest : Resting p env.asyncNames (Expr.listNodes es)) :
    (exprs env sc es).Yields (fun ts => ∀ t ∈ ts, p.Clear t) (Mentioning [p.text] 0) := by
  have hL := additive_lines p
  match es with
  | [] =>
    rw [exprs]
    exact yields_pure hL nofun
  | e :: es =>
    obtain ⟨hFirst, hMore⟩ := List.forall_mem_cons.mp h
    simp only [Expr.listNodes, resting_append] at hRest
    rw [exprs]
    refine (yields_expr hp hEnv sc hSc e hFirst hRest.1).andThen hL fun t ht => ?_
    refine (yields_exprs hp hEnv sc hSc es hMore hRest.2).andThen hL fun ts hts => ?_
    exact yields_pure hL (List.forall_mem_cons.mpr ⟨ht.owned hp, hts⟩)

theorem yields_objectFields (hp : p ∈ phrases) (hEnv : Sound p env) (sc : Scope)
    (hSc : Alone p sc) (fs : List ObjectField)
    (h : ∀ f ∈ fs, (Node.expr f.value).Throughout (Spelled p)) (hKeys : ∀ f ∈ fs, p.Clear f.key)
    (hRest : Resting p env.asyncNames (Expr.fieldNodes fs)) :
    (objectFields env sc fs).Yields (fun ts => ∀ t ∈ ts, p.Clear t) (Mentioning [p.text] 0) := by
  have hL := additive_lines p
  match fs with
  | [] =>
    rw [objectFields]
    exact yields_pure hL nofun
  | ⟨key, value⟩ :: fs =>
    obtain ⟨hFirst, hMore⟩ := List.forall_mem_cons.mp h
    obtain ⟨hKey, hLater⟩ := List.forall_mem_cons.mp hKeys
    simp only [Expr.fieldNodes, resting_append] at hRest
    rw [objectFields]
    refine (yields_expr hp hEnv sc hSc value hFirst hRest.1).andThen hL fun t ht => ?_
    refine (yields_objectFields hp hEnv sc hSc fs hMore hLater hRest.2).andThen hL fun ts hts => ?_
    refine yields_pure hL (List.forall_mem_cons.mpr ⟨?_, hts⟩)
    exact clear_template hp [.arg (doubleQuoted key), .lit _, .arg t.owned] rfl
      ⟨clear_doubleQuoted hp hKey.not_mentions, ht.owned hp, trivial⟩

theorem fit_matchCases (hp : p ∈ phrases) (hEnv : Sound p env) (sc : Scope)
    (hSc : Alone p sc) (cs : List MatchCase)
    (h : ∀ m ∈ cs.flatMap MatchCase.parts, m.Throughout (Spelled p))
    (hNames : ∀ x ∈ cs.flatMap (·.pattern.names), p.Clear x)
    (hStrings : ∀ s ∈ cs.flatMap (·.pattern.strings), ¬ Mentions p.text s)
    (hRest : Resting p env.asyncNames (Expr.caseNodes cs)) :
    ∀ c ∈ matchCases env sc cs, Fit p c := by
  match cs with
  | [] => rw [matchCases]; nofun
  | ⟨pattern, none, body⟩ :: cs =>
    rw [List.flatMap_cons, List.forall_mem_append] at h hNames hStrings
    simp only [Expr.caseNodes, resting_append] at hRest
    have hBody := yields_expr hp hEnv sc hSc body (h.1 _ (by simp)) hRest.1
    rw [matchCases, List.forall_mem_cons]
    exact ⟨⟨hNames.1, hStrings.1, nofun, hBody⟩,
      fit_matchCases hp hEnv sc hSc cs h.2 hNames.2 hStrings.2 hRest.2⟩
  | ⟨pattern, some guard, body⟩ :: cs =>
    rw [List.flatMap_cons, List.forall_mem_append] at h hNames hStrings
    simp only [Expr.caseNodes, resting_append] at hRest
    have hGuard := yields_expr hp hEnv sc hSc guard (h.1 _ (by simp)) hRest.1.1
    have hBody := yields_expr hp hEnv sc hSc body (h.1 _ (by simp)) hRest.1.2
    rw [matchCases, List.forall_mem_cons]
    refine ⟨⟨hNames.1, hStrings.1, ?_, hBody⟩,
      fit_matchCases hp hEnv sc hSc cs h.2 hNames.2 hStrings.2 hRest.2⟩
    rintro _ ⟨⟩
    exact hGuard

theorem yields_stmt (hp : p ∈ phrases) (hEnv : Sound p env) (sc : Scope)
    (hSc : Alone p sc) (s : Stmt)
    (h : (Node.stmt s).Throughout (Spelled p)) (hRest : Resting p env.asyncNames s.nodes) :
    (stmt env sc s).Yields (fun _ => True)
      (Mentioning [p.text] (s.flow.countP (due p sc.context))) := by
  have hL := additive_lines p
  match s with
  | .assign target value =>
    rw [Stmt.nodes] at hRest
    have hValue := yields_expr hp hEnv sc hSc value (h.part (by simp)) hRest
    have hLambda := yields_lambdaOf hp hEnv sc hSc value (h.part (by simp)) hRest
    have hTarget := h.here.names target List.mem_cons_self
    rw [Stmt.flow, countP_due_cons rfl rfl]
    by_cases hClosure : ∃ params body, value = .lambda params body
    · obtain ⟨params, body, rfl⟩ := hClosure
      rw [stmt]
      refine (hLambda _ _ rfl).andThen hL fun t ht => yields_line ?_
      exact clear_template hp [.lit _, .arg (ident target), .lit _, .arg t, .lit _] rfl
        ⟨clear_ident hp hTarget, ht, trivial⟩
    · rw [stmt]
      · refine hValue.andThen hL fun t ht => yields_line ?_
        exact clear_template hp [.lit _, .arg (sc.pattern target), .lit _, .arg t.owned,
          .lit _] rfl ⟨clear_pattern hp sc hTarget, ht.owned hp, trivial⟩
      · rintro params body rfl
        exact hClosure ⟨params, body, rfl⟩
  | .reassign target value =>
    rw [Stmt.nodes] at hRest
    have hValue := yields_expr hp hEnv sc hSc value (h.part (by simp)) hRest
    have hTarget := clear_ident hp (h.here.names target List.mem_cons_self)
    rw [stmt, Stmt.flow, countP_due_cons rfl rfl]
    refine hValue.andThen hL fun t ht => yields_line ?_
    exact clear_template hp [.arg (ident target), .lit _, .arg t.owned, .lit _] rfl
      ⟨hTarget, ht.owned hp, trivial⟩
  | .ret value =>
    rw [Stmt.nodes] at hRest
    have hValue := yields_expr hp hEnv sc hSc value (h.part (by simp)) hRest
    rw [stmt, Stmt.flow]
    exact hValue.andThen hL fun t ht => yields_return hp sc.context value (ht.owned hp)
  | .cond condition thenBody elseBody =>
    simp only [Stmt.nodes, resting_append] at hRest
    have hCondition := yields_expr hp hEnv sc hSc condition (h.part (by simp)) hRest.1.1
    have hThen := yields_stmts hp hEnv sc hSc thenBody (fun s hs => h.part (by simp [hs])) hRest.1.2
    have hElse := yields_stmts hp hEnv (sc.knowing (closuresOf thenBody)) hSc elseBody
      (fun s hs => h.part (by simp [hs])) hRest.2
    rw [stmt_cond, Stmt.flow, countP_due_cons rfl rfl, List.countP_append]
    refine hCondition.andThen hL fun t ht => (yields_line ?_).andThen hL fun _ _ => ?_
    · exact clear_template hp [.lit _, .arg t.tested, .lit _] rfl ⟨ht.tested hp, trivial⟩
    refine hThen.nest.bind hL fun _ _ => ?_
    cases elseBody with
    | nil => exact yields_line (clear_fixed hp rfl)
    | cons s ss =>
      refine (yields_line (clear_fixed hp rfl)).andThen hL fun _ _ => ?_
      exact hElse.nest.andLast hL fun _ _ => yields_line (clear_fixed hp rfl)
  | .forEach key value iterable body =>
    simp only [Stmt.nodes, resting_append] at hRest
    have hIterable := yields_expr hp hEnv sc hSc iterable (h.part (by simp)) hRest.1
    have hBody := yields_stmts hp hEnv sc hSc body (fun s hs => h.part (by simp [hs])) hRest.2
    have hValue := clear_pattern hp sc (h.here.names value (by simp [Node.names]))
    rw [stmt, Stmt.flow, countP_due_cons rfl rfl]
    refine hIterable.andThen hL fun t ht => yields_braces hp ?_ rfl hBody
    cases key with
    | some key =>
      have hKey := clear_pattern hp sc (h.here.names key (by simp [Node.names]))
      exact clear_template hp [.lit _, .arg (sc.pattern key), .lit _,
        .arg (sc.pattern value), .lit _, .arg t.borrowed, .lit _, .lit _]
        rfl ⟨hKey, hValue, ht.borrowed hp, trivial⟩
    | none =>
      exact clear_template hp [.lit _, .arg (sc.pattern value), .lit _,
        .arg t.borrowed, .lit _, .lit _] rfl ⟨hValue, ht.borrowed hp, trivial⟩
  | .whileLoop condition body =>
    simp only [Stmt.nodes, resting_append] at hRest
    have hCondition := yields_expr hp hEnv sc hSc condition (h.part (by simp)) hRest.1
    have hBody := yields_stmts hp hEnv sc hSc body (fun s hs => h.part (by simp [hs])) hRest.2
    rw [stmt, Stmt.flow, countP_due_cons rfl rfl]
    refine hCondition.andThen hL fun t ht => yields_braces hp ?_ rfl hBody
    exact clear_template hp [.lit _, .arg t.tested, .lit _] rfl ⟨ht.tested hp, trivial⟩
  | .switch value cases otherwise =>
    simp only [Stmt.nodes, resting_append] at hRest
    have hParts : ∀ m ∈ cases.flatMap SwitchCase.parts, m.Throughout (Spelled p) :=
      fun m hm => h.part (List.mem_cons_of_mem _ (List.mem_append_left _ hm))
    have hValue := yields_expr hp hEnv sc hSc value (h.part (by simp)) hRest.1.1
    have hLabels := yields_caseLabels hp hEnv sc hSc cases hParts hRest.1.2
    have hCases (subject : String) (labels : List String) :=
      yields_caseLines hp hEnv sc hSc cases hParts hRest.1.2 subject "if" labels
    have hOther := yields_stmts hp hEnv (sc.knowing (closuresOfCases cases)) hSc otherwise
      (fun s hs => h.part (by simp [hs])) hRest.2
    rw [stmt_switch, Stmt.flow, countP_due_cons rfl rfl, List.countP_append]
    refine hValue.andThen hL fun t ht => ?_
    refine (yields_freshName hp "switch" (by decide) (by decide)).andThen hL
      fun subject hSubject => ?_
    refine hLabels.andThen hL fun labels hTexts => (yields_line ?_).andThen hL fun _ _ => ?_
    · exact clear_template hp [.lit _, .arg subject, .lit _, .arg t.owned, .lit _] rfl
        ⟨hSubject, ht.owned hp, trivial⟩
    refine (hCases subject labels hSubject (clear_fixed hp rfl) hTexts.1 hTexts.2).bind hL
      fun _ _ => ?_
    split
    · exact hOther
    · cases otherwise with
      | nil => exact yields_line (clear_fixed hp rfl)
      | cons s ss =>
        refine (yields_line (clear_fixed hp rfl)).andThen hL fun _ _ => ?_
        exact hOther.nest.andLast hL fun _ _ => yields_line (clear_fixed hp rfl)
  | .expr value =>
    rw [Stmt.nodes] at hRest
    have hValue := yields_expr hp hEnv sc hSc value (h.part (by simp)) hRest
    rw [Stmt.flow, countP_due_cons rfl rfl]
    by_cases hNull : value = .null
    · rw [hNull, stmt]
      exact yields_line (clear_fixed hp rfl)
    · rw [stmt]
      · refine hValue.andThen hL fun t ht => yields_line ?_
        exact clear_template hp [.arg t.owned, .lit _] rfl ⟨ht.owned hp, trivial⟩
      · exact hNull
  | .validate call =>
    rw [Stmt.nodes] at hRest
    have hCall := yields_expr hp hEnv sc hSc call (h.part (by simp)) hRest
    rw [stmt, Stmt.flow]
    refine hCall.andThen hL fun t ht =>
      yields_braces hp ?_ rfl (yields_validation hp sc.context call)
    exact clear_template hp [.lit _, .arg t.tested, .lit _, .lit _] rfl
      ⟨ht.tested hp, trivial⟩
  | .breakLoop =>
    rw [stmt, Stmt.flow, countP_due_cons rfl rfl]
    exact yields_line (clear_fixed hp rfl)
  | .continueLoop =>
    rw [stmt, Stmt.flow, countP_due_cons rfl rfl]
    exact yields_line (clear_fixed hp rfl)

theorem yields_stmts (hp : p ∈ phrases) (hEnv : Sound p env) (sc : Scope)
    (hSc : Alone p sc) (ss : List Stmt)
    (h : ∀ s ∈ ss, (Node.stmt s).Throughout (Spelled p))
    (hRest : Resting p env.asyncNames (Stmt.bodyNodes ss)) :
    (stmts env sc ss).Yields (fun _ => True)
      (Mentioning [p.text] ((Stmt.bodyFlow ss).countP (due p sc.context))) := by
  match ss with
  | [] =>
    rw [stmts, Stmt.bodyFlow]
    exact yields_pure (additive_lines p) trivial
  | s :: ss =>
    obtain ⟨hFirst, hMore⟩ := List.forall_mem_cons.mp h
    simp only [Stmt.bodyNodes, resting_append] at hRest
    rw [stmts, Stmt.bodyFlow, List.countP_append]
    exact (yields_stmt hp hEnv sc hSc s hFirst hRest.1).bind (additive_lines p) fun _ _ =>
      yields_stmts hp hEnv (sc.knowing (closuresIn s)) hSc ss hMore hRest.2

theorem yields_caseStmts (hp : p ∈ phrases) (hEnv : Sound p env) (sc : Scope)
    (hSc : Alone p sc) (ss : List Stmt)
    (h : ∀ s ∈ ss, (Node.stmt s).Throughout (Spelled p))
    (hRest : Resting p env.asyncNames (Stmt.bodyNodes ss)) :
    (caseStmts env sc ss).Yields (fun _ => True)
      (Mentioning [p.text] ((Stmt.bodyFlow ss).countP (due p sc.context))) := by
  match ss with
  | [] =>
    rw [caseStmts, Stmt.bodyFlow]
    exact yields_pure (additive_lines p) trivial
  | s :: ss =>
    obtain ⟨hFirst, hMore⟩ := List.forall_mem_cons.mp h
    simp only [Stmt.bodyNodes, resting_append] at hRest
    have hStmt := yields_stmt hp hEnv sc hSc s hFirst hRest.1
    have hStmts := yields_caseStmts hp hEnv (sc.knowing (closuresIn s)) hSc ss hMore hRest.2
    rw [Stmt.bodyFlow, List.countP_append]
    by_cases hBreak : s = .breakLoop ∧ ss = []
    · rw [hBreak.1, hBreak.2, caseStmts, Stmt.flow, countP_due_cons rfl rfl]
      exact yields_pure (additive_lines p) trivial
    · rw [caseStmts]
      · exact hStmt.bind (additive_lines p) fun _ _ => hStmts
      · exact fun hs hss => hBreak ⟨hs, hss⟩

theorem yields_caseLabels (hp : p ∈ phrases) (hEnv : Sound p env) (sc : Scope)
    (hSc : Alone p sc) (cs : List SwitchCase)
    (h : ∀ m ∈ cs.flatMap SwitchCase.parts, m.Throughout (Spelled p))
    (hRest : Resting p env.asyncNames (Stmt.caseNodes cs)) :
    (caseLabels env sc cs).Yields
      (fun labels => labels.length = cs.length ∧ ∀ t ∈ labels, p.Clear t)
      (Mentioning [p.text] 0) := by
  have hL := additive_lines p
  match cs with
  | [] =>
    rw [caseLabels]
    exact yields_pure hL ⟨rfl, nofun⟩
  | ⟨value, body⟩ :: cs =>
    rw [List.flatMap_cons, List.forall_mem_append] at h
    simp only [Stmt.caseNodes, resting_append] at hRest
    have hValue := yields_expr hp hEnv sc hSc value (h.1 _ (by simp)) hRest.1.1
    rw [caseLabels]
    refine hValue.andThen hL fun t ht => ?_
    refine (yields_caseLabels hp hEnv sc hSc cs h.2 hRest.2).andThen hL fun labels hTexts => ?_
    exact yields_pure hL
      ⟨congrArg (· + 1) hTexts.1, List.forall_mem_cons.mpr ⟨ht.owned hp, hTexts.2⟩⟩

theorem yields_caseLines (hp : p ∈ phrases) (hEnv : Sound p env) (sc : Scope)
    (hSc : Alone p sc) (cs : List SwitchCase)
    (h : ∀ m ∈ cs.flatMap SwitchCase.parts, m.Throughout (Spelled p))
    (hRest : Resting p env.asyncNames (Stmt.caseNodes cs)) (subject keyword : String)
    (labels : List String) (hSubject : p.Clear subject) (hKeyword : p.Clear keyword)
    (hLength : labels.length = cs.length) (hLabels : ∀ t ∈ labels, p.Clear t) :
    (caseLines env sc subject keyword cs labels).Yields (fun _ => True)
      (Mentioning [p.text] ((Stmt.casesFlow cs).countP (due p sc.context))) := by
  have hL := additive_lines p
  match cs, labels with
  | [], _ =>
    rw [caseLines, Stmt.casesFlow]
    · exact yields_pure hL trivial
    · nofun
  | ⟨value, body⟩ :: cs, label :: labels =>
    rw [List.flatMap_cons, List.forall_mem_append] at h
    obtain ⟨hLabel, hMore⟩ := List.forall_mem_cons.mp hLabels
    simp only [Stmt.caseNodes, resting_append] at hRest
    have hBody := yields_caseStmts hp hEnv sc hSc body (fun s hs => h.1 _ (by simp [hs])) hRest.1.2
    have hLater := yields_caseLines hp hEnv (sc.knowing (closuresOf body)) hSc cs h.2 hRest.2
      subject "\x7d else if" labels hSubject (clear_fixed hp rfl) (Nat.succ.inj hLength) hMore
    rw [caseLines, Stmt.casesFlow, List.countP_append]
    refine (yields_line ?_).andThen hL fun _ _ => hBody.nest.bind hL fun _ _ => hLater
    exact clear_template hp [.arg keyword, .lit _, .arg subject, .lit _, .arg label,
      .lit _] rfl ⟨hKeyword, hSubject, hLabel, trivial⟩

end

theorem yields_body (hp : p ∈ phrases) (hEnv : Sound p env) (sc : Scope)
    (hSc : Alone p sc) (ctx : BodyContext) (ss : List Stmt)
    (h : ∀ s ∈ ss, (Node.stmt s).Throughout (Spelled p))
    (hRest : Resting p env.asyncNames (Stmt.bodyNodes ss)) :
    (body env sc ctx ss).Yields (fun _ => True)
      (Mentioning [p.text] ((Stmt.bodyFlow ss).countP (due p ctx) +
        if Plan.fallsThrough ss then responses p ctx else 0)) :=
  (yields_stmts hp hEnv (sc.inner ctx ss) hSc ss h hRest).bind (additive_lines p) fun _ _ =>
    yields_tail hp ctx ss

/-! ## The environment of a service -/

@[simp] theorem callables_nested (env : Env) (n : Nat) :
    (env.nested n).callables = env.callables := by
  cases n <;> rfl

@[simp] theorem asyncNames_nested (env : Env) (n : Nat) :
    (env.nested n).asyncNames = env.asyncNames := by
  cases n <;> rfl

@[simp] theorem helpers_nested (env : Env) (n : Nat) : (env.nested n).helpers = env.helpers := by
  cases n <;> rfl

/-- The default values of callables are spelled without the phrase and suspend nowhere. -/
def Plain (p : Phrase) (cs : List Callable) (asyncNames : List String) : Prop :=
  ∀ c ∈ cs, ∀ f ∈ c.params, ∀ value ∈ f.default,
    (Node.expr value).Throughout (Spelled p) ∧ Resting p asyncNames value.nodes

theorem sound_nested (hp : p ∈ phrases) (hPlain : Plain p env.callables env.asyncNames)
    (hEnv : Sound p env) (n : Nat) : Sound p (env.nested n) := by
  induction n with
  | zero => exact hEnv
  | succ n ih =>
    refine ⟨fun c hc f hf value hValue sc hSc => ?_, by simpa using hEnv.helpers⟩
    have hc' : c ∈ env.callables := hc
    obtain ⟨hSpelled, hRest⟩ := hPlain c hc' f hf value hValue
    have hTerm := yields_expr hp ih sc hSc value hSpelled (by simpa using hRest)
    exact hTerm.andThen (additive_lines p) fun t ht => yields_pure (additive_lines p) (ht.owned hp)

theorem sound_of (hp : p ∈ phrases) (s : Core.Service)
    (hPlain : Plain p (Plan.callables s) (Plan.asyncNames s)) : Sound p (Env.of s) := by
  refine sound_nested hp hPlain ⟨fun _ _ _ _ _ _ _ _ => ?_, ?_⟩ _
  · exact yields_pure (additive_lines p) (clear_fixed hp rfl)
  · exact Plan.helperNames_subset_asyncNames s

@[simp] theorem asyncNames_of (s : Core.Service) : (Env.of s).asyncNames = Plan.asyncNames s :=
  asyncNames_nested _ _

/-- Where nothing suspends, no line of a body awaits. -/
theorem yields_resting (s : Core.Service)
    (hPlain : Plain awaiting (Plan.callables s) (Plan.asyncNames s)) (hSc : sc.injections = [])
    (ctx : BodyContext) {ss : List Stmt} (h : ∀ s ∈ ss, (Node.stmt s).Throughout (Spelled awaiting))
    (hRest : Plan.bodySuspends (Plan.asyncNames s) ss = false) :
    (body (Env.of s) sc ctx ss).Yields (fun _ => True) (Mentioning [awaiting.text] 0) := by
  have hp : awaiting ∈ phrases := List.mem_cons_self
  have hNodes : Resting awaiting (Env.of s).asyncNames (Stmt.bodyNodes ss) := by
    rw [asyncNames_of]
    exact fun _ => Plan.suspends_of_bodySuspends hRest
  have hBody := yields_body hp (sound_of hp s hPlain) sc (fun _ => hSc) ctx ss h hNodes
  simpa [countP_due_awaiting, responses_awaiting] using hBody

/-- Where returning is a response on the wire, the lines of a body with such a response are as many
as its returns and validations, and its end if control can reach it; elsewhere there is none. -/
theorem mentioning_wire_body (s : Core.Service)
    (hDefaults : ∀ c ∈ Plan.callables s, ∀ f ∈ c.params, ∀ value ∈ f.default,
      (Node.expr value).Throughout (Spelled wire))
    (sc : Scope) (ctx : BodyContext) (ss : List Stmt)
    (h : ∀ s ∈ ss, (Node.stmt s).Throughout (Spelled wire)) (n : Nat) :
    mentioning [wire.text] (body (Env.of s) sc ctx ss n).lines =
      if ctx.status?.isSome then
        Stmt.returns ss + Stmt.validations ss + if Plan.fallsThrough ss then 1 else 0
      else 0 := by
  have hp : wire ∈ phrases := by simp [phrases]
  have hOther {P : Prop} (hSame : wire = awaiting) : P := absurd hSame.symm awaiting_ne_wire
  have hEnv := sound_of hp s fun c hc f hf value hValue =>
    ⟨hDefaults c hc f hf value hValue, fun hSame => hOther hSame⟩
  have hBody := (yields_body hp hEnv sc (fun hSame => hOther hSame) ctx ss h
    (fun hSame => hOther hSame) n).2
  rw [show mentioning [wire.text] (body (Env.of s) sc ctx ss n).lines = _ from hBody]
  unfold due responses Stmt.returns Stmt.validations
  cases ctx.status? with
  | none => simp
  | some status => simp [Stmt.countP_return_or_validation]

end ServiceCompiler.Rust
