import ServiceCompiler.Proofs.Core.Flow
import ServiceCompiler.Proofs.Plan.Callable
import ServiceCompiler.Proofs.Target.RustText

/-! # Phrases in calls, matches and returns of Rust

What the parts of an emitted body hold of `.await` or of the text of a response on the wire, given
that what they are made of holds none. A call awaits only what is asynchronous. An argument that it
leaves out is filled in from the default value of its parameter, so default values count as well. -/

namespace ServiceCompiler.Rust

open ServiceCompiler.Core (Expr Stmt MatchCase SwitchCase ObjectField LambdaBody Field Node)
open Plan (BodyContext Case Access Check Callable)
open Source (Emit Line nested Additive Mentioning mentioning)
open Source.Emit (Yields line nest capture write fresh each braces only yields_pure yields_fresh
  yields_each yields_write)
open Text (Avoids Mentions Phrase join doubleQuoted)
open Text.Phrase (Segment Filled spell clear_template clear_fixed)

/-- The phrase is in no name and no string at a node, and no call spells it. -/
structure Spelled (p : Phrase) (n : Node) : Prop where
  names : ∀ x ∈ n.names, p.Clear x
  strings : ∀ s ∈ n.strings, ¬ Mentions p.text s
  calls : ∀ x ∈ n.expr?.bind Plan.calledFunction?, p.Clear (x ++ "(")

instance (p : Phrase) : DecidablePred (Spelled p) := fun _ =>
  decidable_of_iff (_ ∧ _ ∧ _) ⟨fun h => ⟨h.1, h.2.1, h.2.2⟩, fun h => ⟨h.names, h.strings, h.calls⟩⟩

/-- If it is awaiting that is looked for, nothing among the expressions suspends. -/
def Resting (p : Phrase) (asyncNames : List String) (nodes : List Expr) : Prop :=
  p = awaiting → ∀ e ∈ nodes, Plan.suspends asyncNames e = false

/-- If it is awaiting that is looked for, there are no dependencies. -/
def Alone (p : Phrase) (sc : Scope) : Prop := p = awaiting → sc.injections = []

variable {p : Phrase} {env : Env} {sc : Scope}

theorem resting_cons {names : List String} {e : Expr} {es : List Expr} :
    Resting p names (e :: es) ↔
      (p = awaiting → Plan.suspends names e = false) ∧ Resting p names es := by
  simp only [Resting, List.forall_mem_cons]
  exact ⟨fun h => ⟨fun hp => (h hp).1, fun hp => (h hp).2⟩, fun h hp => ⟨h.1 hp, h.2 hp⟩⟩

theorem resting_append {names : List String} {es fs : List Expr} :
    Resting p names (es ++ fs) ↔ Resting p names es ∧ Resting p names fs := by
  simp only [Resting, List.forall_mem_append]
  exact ⟨fun h => ⟨fun hp => (h hp).1, fun hp => (h hp).2⟩, fun h hp => ⟨h.1 hp, h.2 hp⟩⟩

/-- The environment brings the phrase into no call. -/
structure Sound (p : Phrase) (env : Env) : Prop where
  defaults : ∀ c ∈ env.callables, ∀ f ∈ c.params, ∀ value ∈ f.default, ∀ sc, Alone p sc →
    (env.default sc value).Yields p.Clear (Mentioning [p.text] 0)
  helpers : ∀ x ∈ env.helpers, x ∈ env.asyncNames

theorem additive_lines (p : Phrase) : Additive (Mentioning [p.text]) :=
  Source.additive_mentioning [p.text]

theorem yields_line {text : String} (h : p.Clear text) :
    (line text).Yields (fun _ => True) (Mentioning [p.text] 0) :=
  Source.Emit.yields_line (List.forall_mem_singleton.mpr h.not_mentions)

theorem yields_braces (hp : p ∈ phrases) {α : Type} {m : Emit α} {V : α → Prop} {k : Nat}
    {opening : String} {tail : List Char} (hOpening : p.Clear (opening ++ " \x7b"))
    (hTail : (phrases.all fun q => q.fits true [.lit ['\x7d'], .lit tail]) = true)
    (h : m.Yields V (Mentioning [p.text] k)) :
    (braces opening m (String.ofList tail)).Yields V (Mentioning [p.text] k) :=
  h.enclosed (List.forall_mem_singleton.mpr hOpening.not_mentions)
    (List.forall_mem_singleton.mpr (clear_template hp _ hTail trivial).not_mentions)

/-! ## Variables and calls -/

theorem clean_varTerm (hp : p ∈ phrases) {name : String} (hName : p.Clear name) :
    Clean p (env.varTerm sc name) := by
  have hIdent := clear_ident hp hName
  unfold Env.varTerm
  split
  · exact clear_fixed hp rfl
  · split
    · exact clear_fixed hp rfl
    · split
      · exact clear_json hp hIdent
      · exact clear_template hp [.arg (ident name), .lit _] rfl ⟨hIdent, trivial⟩
      · exact clear_fixed hp rfl
      · exact hIdent

theorem yields_missing (hp : p ∈ phrases) (hEnv : Sound p env) (hSc : Alone p sc) {c : Callable}
    (hc : c ∈ env.callables) (n : Nat) :
    (env.missing sc (c.params.drop n)).Yields (fun ts => ∀ t ∈ ts, p.Clear t)
      (Mentioning [p.text] 0) := by
  refine Source.Emit.yields_collect (additive_lines p) fun f hf => ?_
  cases hDefault : f.default with
  | none => exact yields_pure (additive_lines p) (clear_fixed hp rfl)
  | some value =>
    exact hEnv.defaults c hc f (List.mem_of_mem_drop hf) value hDefault sc hSc

theorem yields_call (hp : p ∈ phrases) (hEnv : Sound p env) (hSc : Alone p sc) {name : String}
    (hName : p.Clear (name ++ "(")) (hRests : p = awaiting → name ∉ env.asyncNames)
    {args : List String} (hArgs : ∀ t ∈ args, p.Clear t) :
    (env.call sc name args).Yields p.Clear (Mentioning [p.text] 0) := by
  have hL := additive_lines p
  have hIdent := clear_identCall hp hName
  -- only calls of async functions await, and those are excluded for that phrase
  have hWire (hAsync : name ∈ env.asyncNames) : p ∈ [wire] := by
    refine (List.mem_cons.mp hp).resolve_left fun h => hRests h hAsync
  unfold Env.call
  split
  · exact yields_pure hL (clear_call hp hIdent (clear_list hp hArgs))
  · split
    · rename_i c hCallable
      have hc : c ∈ env.callables := by
        unfold Env.callable? at hCallable
        exact List.mem_reverse.mp (List.mem_of_find?_eq_some hCallable)
      refine (yields_missing hp hEnv hSc hc args.length).andThen hL fun rest hRest => ?_
      have hText := clear_call hp hIdent (clear_list hp (List.forall_mem_append.mpr ⟨hArgs, hRest⟩))
      refine yields_pure hL ?_
      split
      · rename_i hAsync
        refine clear_template (hWire (List.contains_iff_mem.mp hAsync))
          [.lit _, .arg _, .lit _] rfl ⟨hText, trivial⟩
      · exact hText
    · split
      · rename_i hHelper
        rw [Bool.and_eq_true] at hHelper
        have hMem := hWire (hEnv.helpers name (List.contains_iff_mem.mp hHelper.1))
        refine yields_pure hL (Text.Phrase.clear_called ((by decide : ∀ q ∈ phrases, q.Opens) p hp)
          ((by decide : ∀ q ∈ [wire], q.fits false [.lit ").await".toList] = true) p hMem) hName
          (clear_list hp hArgs))
      · exact yields_pure hL (clear_template hp [.lit _, .arg (doubleQuoted name),
          .lit _, .arg (join ", " args), .lit _] rfl
          ⟨clear_doubleQuoted hp (clear_of_called hName), clear_list hp hArgs, trivial⟩)

/-- With nothing injected there is no dependency to call. -/
theorem eq_wire_of_receiver (hp : p ∈ phrases) (hSc : Alone p sc) {e : Expr}
    {providerType root : String} {path : List String}
    (h : receiver? sc e = some (providerType, root, path)) :
    p = wire ∧ Plan.providerPath? e = some (root, path) := by
  simp only [receiver?, Option.bind_eq_bind, Option.bind_eq_some_iff] at h
  obtain ⟨⟨root', path'⟩, hPath, providerType', hProvider, hEq⟩ := h
  obtain ⟨rfl, rfl, rfl⟩ : providerType' = providerType ∧ root' = root ∧ path' = path := by
    simpa using hEq
  refine ⟨List.mem_singleton.mp ((List.mem_cons.mp hp).resolve_left fun hAwaiting => ?_), hPath⟩
  simp [Scope.provider?, Plan.injectedType?, hSc hAwaiting] at hProvider

/-- The list of arguments keeps the parenthesis in front of it from being closed at once. -/
theorem clear_dependencyCall {receiver name : String} {args : List String}
    (hReceiver : wire.Clear receiver) (hName : wire.Clear name)
    (hArgs : ∀ t ∈ args, wire.Clear t) :
    wire.Clear (receiver ++ "." ++ ident name ++ "(" ++ ("&[" ++ join ", " args ++ "]") ++ ")") := by
  have hp : wire ∈ phrases := by simp [phrases]
  have hText : receiver ++ "." ++ ident name ++ "(" ++ ("&[" ++ join ", " args ++ "]") ++ ")" =
      spell [.arg receiver, .lit ['.'], .arg (ident name), .lit ['(', '&', '['], .arg (join ", " args),
        .lit [']', ')']] := by
    apply String.toList_injective
    simp [spell, Segment.text]
  rw [hText]
  exact Text.Phrase.clear_spell _ rfl ⟨hReceiver, clear_ident hp hName, clear_list hp hArgs, trivial⟩

theorem clear_providerCall {providerType root name : String} {path args : List String}
    (hRoot : wire.Clear root) (hPath : ∀ x ∈ path, wire.Clear x) (hName : wire.Clear name)
    (hArgs : ∀ t ∈ args, wire.Clear t) :
    wire.Clear (providerCall providerType root path name args) := by
  have hp : wire ∈ phrases := by simp [phrases]
  have hIdent := clear_ident hp hRoot
  unfold providerCall
  dsimp only
  split
  · exact clear_dependencyCall hIdent hName hArgs
  · rename_i table
    have hTable : wire.Clear (ident root ++ "." ++ ident table) :=
      Text.Phrase.clear_spell [.arg (ident root), .lit _, .arg (ident table)] rfl
        ⟨hIdent, clear_ident hp (hPath table List.mem_cons_self), trivial⟩
    exact clear_dependencyCall hTable hName hArgs
  · have hFields : wire.Clear (join "." path) := Text.Phrase.clear_join (by decide) hPath
    have hDotted : wire.Clear (join "." path ++ "." ++ name) :=
      Text.Phrase.clear_spell [.arg (join "." path), .lit _, .arg name] rfl
        ⟨hFields, hName, trivial⟩
    have hText : ident root ++ ".call(" ++ doubleQuoted (join "." path ++ "." ++ name) ++ ", " ++
        ("&[" ++ join ", " args ++ "]") ++ ")" =
        spell [.arg (ident root), .lit ".call(".toList,
          .arg (doubleQuoted (join "." path ++ "." ++ name)), .lit [',', ' ', '&', '['],
          .arg (join ", " args), .lit [']', ')']] := by
      apply String.toList_injective
      simp [spell, Segment.text]
    rw [hText]
    exact Text.Phrase.clear_spell _ rfl
      ⟨hIdent, clear_doubleQuoted hp hDotted.not_mentions, clear_list hp hArgs, trivial⟩

theorem clear_methodCall (hp : p ∈ phrases) {target : Term} (hTarget : Clean p target)
    {name : String} (hName : p.Clear name) {args : List String} (hArgs : ∀ t ∈ args, p.Clear t) :
    p.Clear (methodCall target name args) :=
  clear_template hp [.lit _, .arg target.borrowed, .lit _,
    .arg (doubleQuoted name), .lit _, .arg (join ", " args), .lit _] rfl
    ⟨hTarget.borrowed hp, clear_doubleQuoted hp hName.not_mentions, clear_list hp hArgs, trivial⟩

/-- A method of a `Value` that takes a closure. -/
theorem clear_closureCall (hp : p ∈ phrases) {name : String} (hName : takesClosure name = true)
    {target closure : String} (hTarget : p.Clear target) (hClosure : p.Clear closure) :
    p.Clear s!"rt::{name}({target}, {closure})" := by
  simp only [takesClosure, Bool.or_eq_true, beq_iff_eq] at hName
  rcases hName with rfl | rfl
  · exact clear_template hp [.lit _, .lit _, .lit _, .arg target, .lit _,
      .arg closure, .lit _] rfl ⟨hTarget, hClosure, trivial⟩
  · exact clear_template hp [.lit _, .lit _, .lit _, .arg target, .lit _,
      .arg closure, .lit _] rfl ⟨hTarget, hClosure, trivial⟩

theorem clear_paramsText (hp : p ∈ phrases) {params : List Field}
    (h : ∀ f ∈ params, p.Clear f.name) : p.Clear (paramsText params) := by
  refine clear_list hp fun t ht => ?_
  obtain ⟨f, hf, rfl⟩ := List.mem_map.mp ht
  exact clear_template hp [.arg (ident f.name), .lit _] rfl
    ⟨clear_ident hp (h f hf), trivial⟩

theorem clear_pattern (hp : p ∈ phrases) (sc : Scope) {name : String} (h : p.Clear name) :
    p.Clear (sc.pattern name) := by
  have hIdent := clear_ident hp h
  unfold Scope.pattern
  split
  · exact clear_template hp [.lit _, .arg (ident name)] rfl ⟨hIdent, trivial⟩
  · exact hIdent

theorem yields_freshName (hp : p ∈ phrases) (kind : String)
    (hPoint : Avoids '.' ("__" ++ kind ++ "_")) (hLetter : Avoids 'p' ("__" ++ kind ++ "_")) :
    (fresh kind).Yields p.Clear (Mentioning [p.text] 0) :=
  yields_fresh (additive_lines p) fun n => clear_of_avoids hp
    (Text.avoids_numbered (by decide) hPoint n) (Text.avoids_numbered (by decide) hLetter n)

/-! ## Matches -/

/-- The pattern of a case is spelled without the phrase, and its parts yield none. -/
structure Fit (p : Phrase) (c : Case (Emit Term)) : Prop where
  names : ∀ x ∈ c.pattern.names, p.Clear x
  strings : ∀ s ∈ c.pattern.strings, ¬ Mentions p.text s
  guard : ∀ g ∈ c.guard, Yields g (Clean p) (Mentioning [p.text] 0)
  body : Yields c.body (Clean p) (Mentioning [p.text] 0)

variable {c : Case (Emit Term)} {exit : String}

theorem yields_answer (hp : p ∈ phrases) (hExit : p.Clear exit) {m : Emit Term}
    (h : m.Yields (Clean p) (Mentioning [p.text] 0)) :
    Yields (do line s!"{exit} {(← m).owned};") (fun _ => True) (Mentioning [p.text] 0) := by
  refine h.andThen (additive_lines p) fun t ht => yields_line ?_
  exact clear_template hp [.arg exit, .lit _, .arg t.owned, .lit _] rfl
    ⟨hExit, ht.owned hp, trivial⟩

theorem yields_armBody (hp : p ∈ phrases) (hExit : p.Clear exit) (hFit : Fit p c) :
    (armBody exit c.arm).Yields (fun _ => True) (Mentioning [p.text] 0) := by
  have hL := additive_lines p
  have hRoot : ∀ x ∈ Plan.pathNames [], p.Clear x := nofun
  have hBounds := Plan.spelling_patternBounds hRoot c.pattern hFit.names
  refine (yields_each hL fun b hb => yields_line ?_).andThen hL fun _ _ => ?_
  · obtain ⟨hName, hPath⟩ := List.forall_mem_cons.mp (hBounds b hb)
    exact clear_template hp [.lit _, .arg (ident b.name), .lit _, .arg (boundText b.path),
      .lit _] rfl ⟨clear_ident hp hName, clear_boundText hp hPath, trivial⟩
  · cases hGuard : c.arm.guard with
    | none => exact yields_answer hp hExit hFit.body
    | some guard =>
      refine (hFit.guard guard hGuard).andThen hL fun t ht => ?_
      refine yields_braces hp ?_ rfl (yields_answer hp hExit hFit.body)
      exact clear_template hp [.lit _, .arg t.tested, .lit _] rfl ⟨ht.tested hp, trivial⟩

theorem yields_armLines (hp : p ∈ phrases) (hExit : p.Clear exit) (hFit : Fit p c) :
    (armLines exit c.arm).Yields (fun _ => True) (Mentioning [p.text] 0) := by
  have hL := additive_lines p
  have hRoot : ∀ x ∈ Plan.pathNames [], p.Clear x := nofun
  have hChecks := Plan.spelling_patternChecks hRoot c.pattern hFit.names hFit.strings
  have hOpening : p.Clear (if c.arm.checks.isEmpty then "\x7b"
      else "if " ++ join " && " (c.arm.checks.map checkText) ++ " \x7b") := by
    split
    · exact clear_fixed hp rfl
    · refine clear_template hp [.lit _, .arg _, .lit _] rfl ⟨?_, trivial⟩
      have hSeparates := (by decide : ∀ q ∈ phrases, q.Separates " && ") p hp
      refine Text.Phrase.clear_join hSeparates fun t ht => ?_
      obtain ⟨check, hCheck, rfl⟩ := List.mem_map.mp ht
      exact clear_checkText hp (hChecks check hCheck).1 (hChecks check hCheck).2
  refine (yields_line hOpening).andThen hL fun _ _ => ?_
  refine (yields_armBody hp hExit hFit).nest.andThen hL fun _ _ => ?_
  exact yields_line (clear_fixed hp rfl)

theorem yields_planLines (hp : p ∈ phrases) (hExit : p.Clear exit)
    {cs : List (Case (Emit Term))} (hFit : ∀ c ∈ cs, Fit p c) :
    (planLines exit (Plan.planMatch cs)).Yields (fun _ => True) (Mentioning [p.text] 0) := by
  have hL := additive_lines p
  rw [Plan.planMatch_eq]
  refine (yields_each hL fun arm hArm => ?_).andThen hL fun _ _ => ?_
  · obtain ⟨c, hMem, rfl⟩ := List.mem_map.mp hArm
    exact yields_armLines hp hExit (hFit c (List.mem_of_mem_eraseP hMem))
  · cases hDefault : cs.find? Case.isCatchAll with
    | none => exact yields_line (clear_fixed hp rfl)
    | some c => exact yields_armBody hp hExit (hFit c (List.mem_of_find?_eq_some hDefault))

theorem yields_matchText (hp : p ∈ phrases) (awaits : Bool) {subject : String}
    (hSubject : p.Clear subject) {cs : List (Case (Emit Term))} (hFit : ∀ c ∈ cs, Fit p c) :
    (matchText awaits subject (Plan.planMatch cs)).Yields p.Clear (Mentioning [p.text] 0) := by
  have hL := additive_lines p
  refine (Source.Emit.yields_number hL (V := fun _ => True) fun _ => trivial).andThen hL
    fun number _ => ?_
  have hPoint : Avoids '.' s!"__match_{number}" :=
    Text.avoids_numbered (by decide) (by decide : Avoids '.' "__match_") number
  have hLetter : Avoids 'p' s!"__match_{number}" :=
    Text.avoids_numbered (by decide) (by decide : Avoids 'p' "__match_") number
  have hName : p.Clear s!"__match_{number}" := clear_of_avoids hp hPoint hLetter
  cases awaits with
  | true =>
    have hLabel : p.Clear s!"'match_{number}" :=
      clear_template hp [.lit _, .arg (toString number)] rfl
        ⟨Text.Phrase.clear_nat (wordy_of_mem hp) number, trivial⟩
    have hExit {label : String} (h : p.Clear label) : p.Clear s!"break {label}" :=
      clear_template hp [.lit _, .arg label] rfl ⟨h, trivial⟩
    refine (yields_braces (V := fun _ => True) hp ?_ rfl ?_).andThen hL fun _ _ =>
      yields_pure hL hName
    · exact clear_template hp [.lit _, .arg _, .lit _, .arg _, .lit _, .lit _] rfl
        ⟨hName, hLabel, trivial⟩
    · refine (yields_line ?_).andThen hL fun _ _ => yields_planLines hp (hExit hLabel) hFit
      exact clear_template hp [.lit _, .arg subject, .lit _] rfl
        ⟨hSubject, trivial⟩
  | false =>
    refine (yields_braces hp ?_ rfl
      (yields_planLines hp (clear_fixed hp rfl) hFit)).andThen hL fun _ _ => yields_pure hL ?_
    · exact clear_template hp [.lit _, .arg _, .lit _, .lit _] rfl ⟨hName, trivial⟩
    · exact clear_call hp (clear_of_avoids hp (hPoint.append (by decide))
        (hLetter.append (by decide))) hSubject

/-! ## Returns, validations and ends -/

/-- The responses of a line that is one in routes, if it is responses that are looked for. -/
def responses (p : Phrase) (ctx : BodyContext) : Nat :=
  if decide (p.text = wire.text) && ctx.status?.isSome then 1 else 0

/-- The statements that give a line with a response. -/
def due (p : Phrase) (ctx : BodyContext) (s : Stmt) : Bool :=
  decide (p.text = wire.text) && ctx.status?.isSome && (s.isReturn || s.isValidation)

theorem awaiting_ne_wire : awaiting ≠ wire :=
  fun hSame => absurd (congrArg Phrase.text hSame) (by decide)

theorem responses_awaiting (ctx : BodyContext) : responses awaiting ctx = 0 := by
  have hOther : awaiting.text ≠ wire.text := by decide
  simp [responses, hOther]

theorem countP_due_awaiting (ctx : BodyContext) (flow : List Stmt) :
    flow.countP (due awaiting ctx) = 0 := by
  have hOther : awaiting.text ≠ wire.text := by decide
  simp [due, hOther]

theorem countP_due_closure (flow : List Stmt) : flow.countP (due p .closure) = 0 := by
  simp [due, BodyContext.status?]

theorem countP_due_cons {s : Stmt} (hReturn : s.isReturn = false) (hCheck : s.isValidation = false)
    (ctx : BodyContext) (flow : List Stmt) :
    (s :: flow).countP (due p ctx) = flow.countP (due p ctx) :=
  List.countP_cons_of_neg (by simp [due, hReturn, hCheck])

theorem countP_due_singleton {s : Stmt} (h : (s.isReturn || s.isValidation) = true)
    (ctx : BodyContext) : [s].countP (due p ctx) = responses p ctx := by
  simp [due, responses, h, List.countP_cons]

/-- Outside of routes nothing is returned as a response. -/
theorem clear_returnText (hp : p ∈ phrases) {ctx : BodyContext}
    (hStatus : p = wire → ctx.status? = none) {t : String} (ht : p.Clear t) :
    p.Clear (returnText ctx t) := by
  have hAwaiting {status : Nat} (hRoute : ctx = .route status) : p ∈ [awaiting] := by
    refine List.mem_singleton.mpr ((List.mem_cons.mp hp).resolve_right fun hWire => ?_)
    cases hRoute ▸ hStatus (List.mem_singleton.mp hWire)
  unfold returnText
  split
  · exact clear_template (hAwaiting rfl) [.lit _, .arg t, .lit _] rfl ⟨ht, trivial⟩
  · exact clear_template (hAwaiting rfl) [.lit _, .arg t, .lit _] rfl ⟨ht, trivial⟩
  · exact clear_template hp [.lit _, .arg t, .lit _] rfl ⟨ht, trivial⟩
  · exact clear_template hp [.lit _, .arg t, .lit _] rfl ⟨ht, trivial⟩

theorem mentions_returnText (status : Nat) (t : String) :
    Mentions wire.text (returnText (.route status) t) := by
  unfold returnText
  split
  · exact Text.Phrase.mentions_spell [.lit _, .arg t, .lit _] rfl
  · exact Text.Phrase.mentions_spell [.lit _, .arg t, .lit _] rfl
  · rename_i hEq
    cases hEq
  · rename_i hNotRoute _
    exact absurd rfl (hNotRoute status)

/-- A line that is a response in routes and nothing of note elsewhere. -/
theorem yields_response (hp : p ∈ phrases) {ctx : BodyContext} {text : String}
    (hOther : (p = wire → ctx.status? = none) → p.Clear text)
    (hRoute : ∀ status, ctx = .route status → Mentions wire.text text) :
    (line text).Yields (fun _ => True) (Mentioning [p.text] (responses p ctx)) := by
  rcases List.mem_cons.mp hp with rfl | hWire
  · rw [responses_awaiting]
    exact yields_line (hOther fun hSame => absurd hSame awaiting_ne_wire)
  · obtain rfl := List.mem_singleton.mp hWire
    cases hStatus : ctx.status? with
    | none =>
      have hNone : responses wire ctx = 0 := by simp [responses, hStatus]
      rw [hNone]
      exact yields_line (hOther fun _ => hStatus)
    | some status =>
      have hOne : responses wire ctx = 1 := by simp [responses, hStatus]
      obtain ⟨status, rfl⟩ : ∃ status, ctx = .route status := by
        cases ctx <;> simp_all [BodyContext.status?]
      rw [hOne]
      exact Source.Emit.yields_hit List.mem_cons_self (hRoute status rfl)

theorem yields_return (hp : p ∈ phrases) (ctx : BodyContext) (value : Expr) {t : String}
    (ht : p.Clear t) :
    (line (returnText ctx t)).Yields (fun _ => True)
      (Mentioning [p.text] ([Stmt.ret value].countP (due p ctx))) := by
  rw [countP_due_singleton rfl]
  refine yields_response hp (fun hStatus => clear_returnText hp hStatus ht) ?_
  rintro status rfl
  exact mentions_returnText status t

/-- Texts that are fixed in each context. -/
theorem clear_inContext (hp : p ∈ phrases) {ctx : BodyContext}
    (hStatus : p = wire → ctx.status? = none) {text : BodyContext → String}
    (hAwaiting : awaiting.Clear (text ctx)) (hWire : ctx.status? = none → wire.Clear (text ctx)) :
    p.Clear (text ctx) := by
  rcases List.mem_cons.mp hp with rfl | hMem
  · exact hAwaiting
  · obtain rfl := List.mem_singleton.mp hMem
    exact hWire (hStatus rfl)

theorem yields_validation (hp : p ∈ phrases) (ctx : BodyContext) (call : Expr) :
    (line (validationText ctx)).Yields (fun _ => True)
      (Mentioning [p.text] ([Stmt.validate call].countP (due p ctx))) := by
  rw [countP_due_singleton rfl]
  refine yields_response hp (fun hStatus => clear_inContext hp hStatus ?_ fun hNone => ?_) ?_
  · unfold validationText
    split <;> decide +kernel
  · unfold validationText
    split
    · cases hNone
    · decide +kernel
    · decide +kernel
  · rintro status rfl
    exact (by decide +kernel : Mentions wire.text (badRequest "Validation failed"))

theorem yields_tail (hp : p ∈ phrases) (ctx : BodyContext) (ss : List Stmt) :
    (tailLine ctx ss).Yields (fun _ => True)
      (Mentioning [p.text] (if Plan.fallsThrough ss then responses p ctx else 0)) := by
  unfold tailLine
  cases Plan.fallsThrough ss with
  | false => exact yields_pure (additive_lines p) trivial
  | true =>
    refine yields_response hp (fun hStatus => clear_inContext hp hStatus ?_ fun hNone => ?_) ?_
    · unfold tailText
      split <;> decide +kernel
    · unfold tailText
      split
      · cases hNone
      · decide
      · decide
    · rintro status rfl
      exact (by decide +kernel : Mentions wire.text "StatusCode::NO_CONTENT.into_response()")

end ServiceCompiler.Rust
