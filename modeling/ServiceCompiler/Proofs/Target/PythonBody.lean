import ServiceCompiler.Proofs.Core.Flow
import ServiceCompiler.Proofs.Plan.Spelling
import ServiceCompiler.Proofs.Target.PythonLayout
import ServiceCompiler.Target.PythonBody

/-! # Phrases in Python bodies

Which lines of an emitted body can hold `await`, a line break or the text of a response on the wire.
Names and strings that hold no such phrase are assumed; then the phrase arises where it is written
on purpose and nowhere else. Main statements: a line awaits only in an asynchronous function, and
the lines with a response are the returns of a route. -/

namespace ServiceCompiler.Python

open ServiceCompiler.Core (Expr Stmt MatchCase SwitchCase ObjectField LambdaBody Node)
open Plan (BodyContext Case Arm MatchPlan Access Check)
open Source (Emit Line nested Additive mentioning)
open Source.Emit (Yields line nest capture write fresh head each yields_pure yields_fresh yields_each
  yields_write)
open Text (Mentions Phrase join doubleQuoted)
open Text.Phrase (Segment Filled spell clear_template clear_fixed)

/-- The text of a response on the wire. -/
def wire : Phrase := ⟨"JSONResponse", _, rfl, none, by decide⟩

def lineBreak : Phrase := ⟨"\n", _, rfl, none, by decide⟩

/-- The phrases that are looked for in a body. -/
def phrases : List Phrase := [awaiting, wire, lineBreak]

/-- The phrase stands in no name and no string at a node. -/
def Spelled (p : Phrase) (n : Node) : Prop :=
  (∀ x ∈ n.names, p.Clear x) ∧ ∀ x ∈ n.strings, ¬ Mentions p.text x

instance (p : Phrase) : DecidablePred (Spelled p) := fun _ => inferInstanceAs (Decidable (_ ∧ _))

variable {p : Phrase}

/-! ## Texts -/

theorem wordy_of_mem (hp : p ∈ phrases) : p.Wordy :=
  (by decide : ∀ q ∈ phrases, q.Wordy) p hp

theorem clear_doubleQuoted (hp : p ∈ phrases) {s : String} (h : ¬ Mentions p.text s) :
    p.Clear (doubleQuoted s) :=
  Text.Phrase.clear_quote ((by decide : ∀ q ∈ phrases, q.Quotable '"') p hp) h

theorem clear_list (hp : p ∈ phrases) {ts : List String} (h : ∀ t ∈ ts, p.Clear t) :
    p.Clear (join ", " ts) :=
  Text.Phrase.clear_join ((by decide : ∀ q ∈ phrases, q.Separates ", ") p hp) h

theorem clear_freshName (hp : p ∈ phrases) {kind : List Char}
    (hKind : (phrases.all fun q => q.fits true [.lit kind]) = true) (n : Nat) :
    p.Clear s!"__{String.ofList kind}_{n}" :=
  clear_template hp [.lit _, .arg (String.ofList kind), .lit _, .arg (toString n)] rfl
    ⟨clear_fixed hp hKind, Text.Phrase.clear_nat (wordy_of_mem hp) n, trivial⟩

theorem clear_floatText (hp : p ∈ phrases) (x : Float) : p.Clear (floatText x) := by
  unfold floatText
  split
  · exact clear_fixed hp rfl
  · split <;> exact clear_fixed hp rfl
  · exact Text.Phrase.clear_render (wordy_of_mem hp) _ x

theorem clear_boolText (hp : p ∈ phrases) (b : Bool) : p.Clear (boolText b) := by
  cases b <;> exact clear_fixed hp rfl

theorem clear_literalText (hp : p ∈ phrases) (value : Literal)
    (h : ∀ s ∈ value.strings, ¬ Mentions p.text s) : p.Clear (literalText value) := by
  cases value with
  | int n => exact Text.Phrase.clear_int (wordy_of_mem hp) n.toInt
  | float x => exact clear_floatText hp x
  | string s => exact clear_doubleQuoted hp (h s List.mem_cons_self)
  | bool b => exact clear_boolText hp b
  | null => exact clear_fixed hp rfl

theorem clear_binaryText (hp : p ∈ phrases) (op : BinaryOp) : p.Clear (binaryText op) := by
  cases op <;> exact clear_fixed hp rfl

theorem subjectAt_snoc (path : List Access) (step : Access) :
    subjectAt (path ++ [step]) = subjectAt path ++ accessText step := by
  simp [subjectAt, String.append_assoc]

theorem clear_subjectAt (hp : p ∈ phrases) {path : List Access}
    (h : ∀ x ∈ Plan.pathNames path, p.Clear x) : p.Clear (subjectAt path) := by
  induction path using List.reverseRecOn with
  | nil => exact clear_template hp [.lit _, .lit _] rfl trivial
  | append_singleton path step ih =>
    simp only [Plan.pathNames, List.flatMap_append, List.flatMap_singleton,
      List.forall_mem_append] at h
    have hPath := ih h.1
    have hAccess (pieces : List Segment)
        (hFits : (phrases.all fun q => q.fits false pieces) = true)
        (hFilled : Filled p.Clear pieces) : p.Clear (subjectAt path ++ spell pieces) :=
      hPath.append_spell pieces (List.all_eq_true.mp hFits p hp) hFilled
    have hNumber (i : Nat) : p.Clear (toString i) := Text.Phrase.clear_nat (wordy_of_mem hp) i
    rw [subjectAt_snoc]
    cases step with
    | key name =>
      have hName := clear_doubleQuoted hp (h.2 name List.mem_cons_self).not_mentions
      exact hAccess [.lit _, .arg (doubleQuoted name), .lit _] rfl ⟨hName, trivial⟩
    | index i =>
      exact hAccess [.lit _, .arg (toString i), .lit _] rfl ⟨hNumber i, trivial⟩
    | restFrom i =>
      exact hAccess [.lit _, .arg (toString i), .lit _] rfl ⟨hNumber i, trivial⟩

theorem clear_checkText (hp : p ∈ phrases) {c : Check} (hNames : ∀ x ∈ c.names, p.Clear x)
    (hStrings : ∀ x ∈ c.strings, ¬ Mentions p.text x) : p.Clear (checkText c) := by
  cases c with
  | isObject path =>
    exact clear_template hp [.lit _, .arg (subjectAt path), .lit _] rfl
      ⟨clear_subjectAt hp hNames, trivial⟩
  | hasKey path key =>
    obtain ⟨hKey, hPath⟩ := List.forall_mem_cons.mp hNames
    exact clear_template hp [.arg (doubleQuoted key), .lit _, .arg (subjectAt path)] rfl
      ⟨clear_doubleQuoted hp hKey.not_mentions, clear_subjectAt hp hPath, trivial⟩
  | arrayLength path length exact =>
    have hPath := clear_subjectAt hp hNames
    have hOp : p.Clear (if exact then "==" else ">=") := by split <;> exact clear_fixed hp rfl
    exact clear_template hp [.lit _, .arg (subjectAt path), .lit _,
      .arg (subjectAt path), .lit _, .arg (if exact then "==" else ">="), .lit _,
      .arg (toString length)] rfl
      ⟨hPath, hPath, hOp, Text.Phrase.clear_nat (wordy_of_mem hp) length, trivial⟩
  | equals path value =>
    exact clear_template hp [.arg (subjectAt path), .lit _, .arg (literalText value)] rfl
      ⟨clear_subjectAt hp hNames, clear_literalText hp value hStrings, trivial⟩

theorem clear_callText (hp : p ∈ phrases) {name : String} (hName : p.Clear name)
    (args : List Expr) {texts : List String} (hTexts : ∀ t ∈ texts, p.Clear t) :
    p.Clear (callText name args texts) := by
  unfold callText
  split
  · obtain ⟨hReceiver, hRest⟩ := List.forall_mem_cons.mp hTexts
    exact clear_template hp [.arg _, .lit _, .arg name, .lit _, .arg _, .lit _] rfl
      ⟨hReceiver, hName, clear_list hp hRest, trivial⟩
  · exact clear_template hp [.arg name, .lit _, .arg _, .lit _] rfl
      ⟨hName, clear_list hp hTexts, trivial⟩

theorem clear_lambdaText (hp : p ∈ phrases) {params value : String} (hParams : p.Clear params)
    (hValue : p.Clear value) : p.Clear (lambdaText params value) := by
  unfold lambdaText
  split
  · exact clear_template hp [.lit _, .arg value, .lit _] rfl ⟨hValue, trivial⟩
  · exact clear_template hp [.lit _, .arg params, .lit _, .arg value, .lit _] rfl
      ⟨hParams, hValue, trivial⟩

theorem clear_validationText (hp : p ∈ phrases) (ctx : BodyContext) :
    p.Clear (validationText ctx) := by
  unfold validationText
  split <;> exact clear_fixed hp (by decide +kernel)

/-! ## Values and lines of emissions -/

/-- The text of an expression holds the phrase only if the expression awaits. -/
def Value (p : Phrase) (awaits : Bool) (t : String) : Prop := Quiet p awaits → p.Clear t

theorem Quiet.of_or {a b : Bool} (h : Quiet p (a || b)) : Quiet p a ∧ Quiet p b :=
  ⟨fun hp => (Bool.or_eq_false_iff.mp (h hp)).1, fun hp => (Bool.or_eq_false_iff.mp (h hp)).2⟩

theorem Quiet.of_imp {a b : Bool} (h : Quiet p b) (hImp : a = true → b = true) : Quiet p a := by
  intro hp
  cases a with
  | false => rfl
  | true => rw [hImp rfl] at h; exact h hp

theorem Value.widen {a b : Bool} {t : String} (h : Value p a t) (hImp : a = true → b = true) :
    Value p b t :=
  fun hQuiet => h (hQuiet.of_imp hImp)

variable {inAsync : Bool}

theorem yields_line {text : String} (h : Value p inAsync text) :
    (line text).Yields (fun _ => True) (Laid p inAsync 0) :=
  fun _ => ⟨trivial, .line (.inl ⟨rfl, h⟩)⟩

section Headers

variable {α : Type} {m : Emit α} {V : α → Prop} {k : Nat}

theorem functionKind_def (awaits : Bool) (pieces : List Segment) :
    functionKind (spell (.arg (defText awaits) :: .lit [' '] :: pieces)) = some awaits := by
  rw [functionKind, Text.Phrase.toList_spell]
  cases awaits <;> simp [defText, Segment.text]

theorem functionKind_async {cs : List Char} (hBegin : "async def ".toList <+: cs)
    (pieces : List Segment) : functionKind (spell (.lit cs :: pieces)) = some true := by
  have hSpelled := Text.Phrase.toList_spell (.lit cs :: pieces)
  rw [List.flatMap_cons, Segment.text, String.toList_ofList] at hSpelled
  rw [functionKind, hSpelled]
  exact if_pos (hBegin.trans (List.prefix_append _ _))

/-- Whether a text begins like no header of a function. -/
def opensControl (cs : List Char) : Bool := cs.head?.any fun c => c != 'a' && c != 'd'

theorem functionKind_control {cs : List Char} (hOpens : opensControl cs = true)
    (pieces : List Segment) :
    functionKind (spell (.lit cs :: pieces)) = none ∧ spell (.lit cs :: pieces) ≠ "" := by
  have hSpelled := Text.Phrase.toList_spell (.lit cs :: pieces)
  rw [List.flatMap_cons, Segment.text, String.toList_ofList] at hSpelled
  cases cs with
  | nil => cases hOpens
  | cons c cs =>
    simp only [opensControl, List.head?_cons, Option.any_some, Bool.and_eq_true,
      bne_iff_ne] at hOpens
    rw [List.cons_append] at hSpelled
    refine ⟨?_, fun hEmpty => by simp [hEmpty] at hSpelled⟩
    simp [functionKind, hSpelled, Ne.symm hOpens.1, Ne.symm hOpens.2]

/-- A header of a condition or a loop, with the lines under it. -/
theorem yields_control (hp : p ∈ phrases) {cs : List Char} (pieces : List Segment)
    (hOpens : opensControl cs = true)
    (hFits : (phrases.all fun q => q.fits true (.lit cs :: pieces)) = true)
    (hFilled : Quiet p inAsync → Filled p.Clear pieces) (hBody : m.Yields V (Laid p inAsync k)) :
    (head (spell (.lit cs :: pieces)) m).Yields V (Laid p inAsync k) := by
  obtain ⟨hKind, hHead⟩ := functionKind_control hOpens pieces
  refine fun n => ⟨(hBody n).1, .head (.inl ⟨rfl, fun hQuiet => ?_⟩) hHead ?_⟩
  · exact clear_template hp _ hFits (hFilled hQuiet)
  · rw [hKind]
    exact (hBody n).2

/-- A header of a function, with the lines under it. -/
theorem yields_function {text : String} {awaits : Bool} (hKind : functionKind text = some awaits)
    (hClear : p.Clear text) (hBody : m.Yields V (Laid p awaits k)) :
    (head text m).Yields V (Laid p inAsync k) := by
  have hHead : text ≠ "" := by
    rintro rfl
    cases hKind
  refine fun n => ⟨(hBody n).1, .head (.inl ⟨rfl, fun _ => hClear⟩) hHead ?_⟩
  rw [hKind]
  exact (hBody n).2

end Headers

theorem clear_defText (hp : p ∈ phrases) (awaits : Bool) : p.Clear (defText awaits) := by
  cases awaits <;> exact clear_fixed hp rfl

/-- A text that awaits, where this is permitted. -/
theorem clear_awaiting (hp : p ∈ phrases) (hQuiet : Quiet p true) (pieces : List Segment)
    (hFits : ([wire, lineBreak].all fun q => q.fits true pieces) = true)
    (hFilled : Filled p.Clear pieces) : p.Clear (spell pieces) := by
  have hOther : p ≠ awaiting := fun h => Bool.noConfusion (hQuiet h)
  exact clear_template ((List.mem_cons.mp hp).resolve_left hOther) pieces hFits hFilled

/-- A function around lines that were captured before, and its last line. -/
theorem yields_captured {text answer name : String} {awaits : Bool} {inner : List Line}
    (hKind : functionKind text = some awaits) (hClear : p.Clear text)
    (hInner : Laid p awaits 0 inner) (hAnswer : Value p awaits answer) {V : String → Prop}
    (hName : V name) :
    Yields (do line text; write (nested inner); nest (line answer); return name) V
      (Laid p inAsync 0) := by
  have hBody : Yields (do write inner; line answer; return name) V (Laid p awaits 0) :=
    (yields_write hInner).andThen (additive_laid p awaits) fun _ _ =>
      (yields_line hAnswer).andThen (additive_laid p awaits) fun _ _ =>
        yields_pure (additive_laid p awaits) hName
  rw [Source.Emit.head_captured]
  exact yields_function hKind hClear hBody

theorem yields_nest {α : Type} {m : Emit α} {V : α → Prop} {K : List Line → Prop}
    (h : m.Yields V K) : (nest m).Yields V fun ls => ∃ inner, ls = nested inner ∧ K inner :=
  fun n => ⟨(h n).1, (m n).lines, rfl, (h n).2⟩

/-! ## Matches -/

/-- The pattern of a case is spelled without the phrase, and its parts keep to what is permitted. -/
structure Fit (p : Phrase) (awaits : Bool) (c : Case (Emit String)) : Prop where
  names : ∀ x ∈ c.pattern.names, p.Clear x
  strings : ∀ x ∈ c.pattern.strings, ¬ Mentions p.text x
  guard : ∀ g ∈ c.guard, Yields g (Value p awaits) (Laid p awaits 0)
  body : Yields c.body (Value p awaits) (Laid p awaits 0)

variable {awaits : Bool} {c : Case (Emit String)}

theorem yields_answer (hp : p ∈ phrases) {m : Emit String}
    (h : m.Yields (Value p awaits) (Laid p awaits 0)) :
    Yields (do line s!"return {← m}") (fun _ => True) (Laid p awaits 0) := by
  refine h.andThen (additive_laid p awaits) fun t ht => yields_line fun hQuiet => ?_
  exact clear_template hp [.lit _, .arg t] rfl ⟨ht hQuiet, trivial⟩

theorem yields_armBody (hp : p ∈ phrases) (hFit : Fit p awaits c) :
    (armBody c.arm).Yields (fun _ => True) (Laid p awaits 0) := by
  have hL := additive_laid p awaits
  have hRoot : ∀ x ∈ Plan.pathNames [], p.Clear x := nofun
  have hBounds := Plan.spelling_patternBounds hRoot c.pattern hFit.names
  refine (yields_each hL fun b hb => yields_line fun _ => ?_).andThen hL fun _ _ => ?_
  · obtain ⟨hName, hPath⟩ := List.forall_mem_cons.mp (hBounds b hb)
    exact clear_template hp [.arg b.name, .lit _, .arg (subjectAt b.path)] rfl
      ⟨hName, clear_subjectAt hp hPath, trivial⟩
  · cases hGuard : c.arm.guard with
    | none => exact yields_answer hp hFit.body
    | some guard =>
      refine (hFit.guard guard hGuard).andThen hL fun t ht => ?_
      exact yields_control hp [.arg t, .lit _] rfl rfl (fun hQuiet => ⟨ht hQuiet, trivial⟩)
        (yields_answer hp hFit.body)

theorem yields_armLines (hp : p ∈ phrases) (hFit : Fit p awaits c) :
    (armLines c.arm).Yields (fun _ => True) (Laid p awaits 0) := by
  have hRoot : ∀ x ∈ Plan.pathNames [], p.Clear x := nofun
  have hChecks := Plan.spelling_patternChecks hRoot c.pattern hFit.names hFit.strings
  unfold armLines
  split
  · exact yields_armBody hp hFit
  · refine yields_control hp [.arg _, .lit _] rfl rfl (fun _ => ⟨?_, trivial⟩)
      (yields_armBody hp hFit)
    refine Text.Phrase.clear_join ((by decide : ∀ q ∈ phrases, q.Separates " and ") p hp) ?_
    intro t ht
    obtain ⟨check, hCheck, rfl⟩ := List.mem_map.mp ht
    exact clear_checkText hp (hChecks check hCheck).1 (hChecks check hCheck).2

theorem yields_planLines (hp : p ∈ phrases) {cs : List (Case (Emit String))}
    (hFit : ∀ c ∈ cs, Fit p awaits c) :
    (planLines (Plan.planMatch cs)).Yields (fun _ => True) (Laid p awaits 0) := by
  have hL := additive_laid p awaits
  rw [Plan.planMatch_eq]
  refine (yields_each hL fun arm hArm => ?_).andThen hL fun _ _ => ?_
  · obtain ⟨c, hMem, rfl⟩ := List.mem_map.mp hArm
    exact yields_armLines hp (hFit c (List.mem_of_mem_eraseP hMem))
  · cases hDefault : cs.find? Case.isCatchAll with
    | none => exact yields_line fun _ => clear_fixed hp rfl
    | some c => exact yields_armBody hp (hFit c (List.mem_of_find?_eq_some hDefault))

/-! ## Expressions and statements -/

/-- The statements that give a line with the phrase: the returns of a route, if it is the text of a
response. -/
def due (p : Phrase) (ctx : BodyContext) (s : Stmt) : Bool :=
  decide (p.text = wire.text) && ctx.status?.isSome && s.isReturn

theorem countP_due_closure (flow : List Stmt) : flow.countP (due p .closure) = 0 := by
  simp [due, BodyContext.status?]

theorem countP_due_of_ne (h : p.text ≠ wire.text) (ctx : BodyContext) (flow : List Stmt) :
    flow.countP (due p ctx) = 0 := by
  simp [due, h]

theorem countP_due_cons {s : Stmt} (h : s.isReturn = false) (ctx : BodyContext)
    (flow : List Stmt) : (s :: flow).countP (due p ctx) = flow.countP (due p ctx) :=
  List.countP_cons_of_neg (by simp [due, h])

def Values (p : Phrase) (awaits : Bool) (ts : List String) : Prop :=
  Quiet p awaits → ∀ t ∈ ts, p.Clear t

theorem Values.cons {a b : Bool} {t : String} {ts : List String} (h : Value p a t)
    (hs : Values p b ts) : Values p (a || b) (t :: ts) :=
  fun hQuiet => List.forall_mem_cons.mpr ⟨h hQuiet.of_or.1, hs hQuiet.of_or.2⟩

/-- A line that is a response on the wire. -/
theorem stands_response (hp : p ∈ phrases) {count : Nat}
    (hCount : count = if p.text = wire.text then 1 else 0) (pieces : List Segment)
    (hWire : Mentions wire.text (spell pieces))
    (hFits : ([awaiting, lineBreak].all fun q => q.fits true pieces) = true)
    (hFilled : Quiet p inAsync → Filled p.Clear pieces) :
    Stands p inAsync count (spell pieces) := by
  by_cases hText : p.text = wire.text
  · rw [if_pos hText] at hCount
    exact .inr ⟨hCount, hText ▸ hWire⟩
  · have hOther : p ∈ [awaiting, lineBreak] := by
      simp only [phrases, List.mem_cons, List.not_mem_nil, or_false] at hp ⊢
      rcases hp with rfl | rfl | rfl
      · exact .inl rfl
      · exact absurd rfl hText
      · exact .inr rfl
    rw [if_neg hText] at hCount
    exact .inl ⟨hCount, fun hQuiet => clear_template hOther pieces hFits (hFilled hQuiet)⟩

theorem yields_return (hp : p ∈ phrases) (ctx : BodyContext) (value : Expr) {t : String}
    (ht : Value p inAsync t) :
    (line (returnText ctx t)).Yields (fun _ => True)
      (Laid p inAsync ([Stmt.ret value].countP (due p ctx))) := by
  refine fun _ => ⟨trivial, .line ?_⟩
  have hFilled (hQuiet : Quiet p inAsync) : p.Clear t ∧ True := ⟨ht hQuiet, trivial⟩
  have hCount : [Stmt.ret value].countP (due p ctx) =
      if p.text = wire.text ∧ ctx.status?.isSome = true then 1 else 0 := by
    simp [due, Stmt.isReturn]
  unfold returnText
  split <;> rename_i hStatus <;> simp only [hStatus, Option.isSome_some, Option.isSome_none,
    and_true, and_false, Bool.false_eq_true, if_false] at hCount
  · exact stands_response hp hCount [.lit _, .arg t, .lit _]
      (Text.Phrase.mentions_spell _ rfl) rfl hFilled
  · exact stands_response hp hCount [.lit _, .arg t, .lit _]
      (Text.Phrase.mentions_spell _ rfl) rfl hFilled
  · refine .inl ⟨hCount, fun hQuiet => ?_⟩
    exact clear_template hp [.lit _, .arg t] rfl (hFilled hQuiet)

theorem clear_params (hp : p ∈ phrases) {params : List Core.Field} {body : LambdaBody}
    (h : (Node.expr (.lambda params body)).Throughout (Spelled p)) :
    p.Clear (join ", " (params.map (·.name))) := by
  refine clear_list hp fun t ht => ?_
  obtain ⟨param, hParam, rfl⟩ := List.mem_map.mp ht
  have hPart := h.part (m := .field param) (by simp [hParam])
  exact hPart.here.1 param.name List.mem_cons_self

theorem yields_pipe (hp : p ∈ phrases) (bare : Bool) {left right : Expr}
    (hNames : (Node.expr right).Throughout (Spelled p))
    (hLeft : (expr false left).Yields (Value p left.awaits) (Laid p inAsync 0))
    (hRight : (expr false right).Yields (Value p right.awaits) (Laid p inAsync 0))
    (hArgs : ∀ name typeArgs args, right = .call name typeArgs args →
      (exprs args).Yields (Values p right.awaits) (Laid p inAsync 0)) :
    (expr bare (.pipe left right)).Yields (Value p (Expr.pipe left right).awaits)
      (Laid p inAsync 0) := by
  have hL := additive_laid p inAsync
  by_cases hCall : ∃ name typeArgs args, right = .call name typeArgs args
  · obtain ⟨name, typeArgs, args, rfl⟩ := hCall
    have hName : p.Clear name := hNames.here.1 name List.mem_cons_self
    rw [expr]
    refine hLeft.andThen hL fun l hl => (hArgs _ _ _ rfl).andThen hL fun ts hts => ?_
    refine yields_pure hL fun hQuiet => ?_
    rw [Expr.awaits] at hQuiet
    exact clear_template hp [.arg name, .lit _, .arg (join ", " (l :: ts)), .lit _] rfl
      ⟨hName, clear_list hp (Values.cons hl hts hQuiet), trivial⟩
  · rw [expr]
    · cases hDotted : Plan.dottedName right with
      | some name =>
        have hName : p.Clear name := by
          refine Plan.spelling_dottedName ?_ right (hNames.mono fun _ h => h.1) hDotted
          exact fun a b ha hb => clear_template hp [.arg a, .lit _, .arg b] rfl ⟨ha, hb, trivial⟩
        refine hLeft.andThen hL fun l hl => yields_pure hL fun hQuiet => ?_
        rw [Expr.awaits] at hQuiet
        exact clear_template hp [.arg name, .lit _, .arg l, .lit _] rfl
          ⟨hName, hl hQuiet.of_or.1, trivial⟩
      | none =>
        refine hRight.andThen hL fun r hr => hLeft.andThen hL fun l hl => ?_
        refine yields_pure hL fun hQuiet => ?_
        rw [Expr.awaits] at hQuiet
        exact clear_template hp [.lit _, .arg r, .lit _, .arg l, .lit _] rfl
          ⟨hr hQuiet.of_or.2, hl hQuiet.of_or.1, trivial⟩
    · rintro name typeArgs args rfl
      exact hCall ⟨name, typeArgs, args, rfl⟩

theorem stmt_cond (ctx : BodyContext) (condition : Expr) (thenBody elseBody : List Stmt) :
    stmt ctx (.cond condition thenBody elseBody) = (do
      head s!"if {← expr true condition}:" (block ctx thenBody)
      match elseBody with
      | [] => pure ()
      | s :: ss => head "else:" (block ctx (s :: ss))) :=
  stmt.eq_def _ _

theorem stmt_switch (ctx : BodyContext) (value : Expr) (cases : List SwitchCase)
    (otherwise : List Stmt) :
    stmt ctx (.switch value cases otherwise) = (do
      let subject ← fresh "switch"
      let value ← expr true value
      let labels ← caseLabels cases
      line s!"{subject} = {value}"
      caseLines ctx subject "if" cases labels
      match otherwise with
      | [] => pure ()
      | [.breakLoop] => pure ()
      | s :: ss =>
        if cases.isEmpty then caseBlock ctx (s :: ss)
        else head "else:" (caseBlock ctx (s :: ss))) :=
  stmt.eq_def _ _

mutual

theorem yields_expr (hp : p ∈ phrases) (bare : Bool) (e : Expr)
    (h : (Node.expr e).Throughout (Spelled p)) (inAsync : Bool) :
    (expr bare e).Yields (Value p e.awaits) (Laid p inAsync 0) := by
  have hL := additive_laid p inAsync
  match e with
  | .int n =>
    rw [expr]
    exact yields_pure hL fun _ => Text.Phrase.clear_int (wordy_of_mem hp) n.toInt
  | .float x =>
    rw [expr]
    exact yields_pure hL fun _ => clear_floatText hp x
  | .string s =>
    rw [expr]
    exact yields_pure hL fun _ => clear_doubleQuoted hp (h.here.2 s List.mem_cons_self)
  | .bool b =>
    rw [expr]
    exact yields_pure hL fun _ => clear_boolText hp b
  | .null =>
    rw [expr]
    exact yields_pure hL fun _ => clear_fixed hp rfl
  | .var name =>
    rw [expr]
    exact yields_pure hL fun _ => h.here.1 name List.mem_cons_self
  | .binary op left right =>
    have hLeft := yields_expr hp false left (h.part (by simp)) inAsync
    have hRight := yields_expr hp false right (h.part (by simp)) inAsync
    rw [expr]
    refine hLeft.andThen hL fun l hl => hRight.andThen hL fun r hr => yields_pure hL fun hQuiet => ?_
    rw [Expr.awaits] at hQuiet
    exact clear_template hp [.lit _, .arg l, .lit _, .arg (binaryText op), .lit _, .arg r,
      .lit _] rfl ⟨hl hQuiet.of_or.1, clear_binaryText hp op, hr hQuiet.of_or.2, trivial⟩
  | .unary .not operand =>
    have hOperand := yields_expr hp false operand (h.part (by simp)) inAsync
    rw [expr]
    refine hOperand.andThen hL fun t ht => yields_pure hL fun hQuiet => ?_
    rw [Expr.awaits] at hQuiet
    exact clear_template hp [.lit _, .arg t, .lit _] rfl ⟨ht hQuiet, trivial⟩
  | .unary .neg operand =>
    have hOperand := yields_expr hp false operand (h.part (by simp)) inAsync
    rw [expr]
    refine hOperand.andThen hL fun t ht => yields_pure hL fun hQuiet => ?_
    rw [Expr.awaits] at hQuiet
    exact clear_template hp [.lit _, .arg t] rfl ⟨ht hQuiet, trivial⟩
  | .field target name =>
    have hTarget := yields_expr hp false target (h.part (by simp)) inAsync
    have hName := h.here.1 name List.mem_cons_self
    rw [expr]
    refine hTarget.andThen hL fun t ht => yields_pure hL fun hQuiet => ?_
    rw [Expr.awaits] at hQuiet
    exact clear_template hp [.arg t, .lit _, .arg name] rfl ⟨ht hQuiet, hName, trivial⟩
  | .index target position =>
    have hTarget := yields_expr hp false target (h.part (by simp)) inAsync
    have hPosition :=
      yields_expr hp false position (h.part (by simp)) inAsync
    rw [expr]
    refine hTarget.andThen hL fun t ht => hPosition.andThen hL fun i hi => ?_
    refine yields_pure hL fun hQuiet => ?_
    rw [Expr.awaits] at hQuiet
    exact clear_template hp [.arg t, .lit _, .arg i, .lit _] rfl
      ⟨ht hQuiet.of_or.1, hi hQuiet.of_or.2, trivial⟩
  | .call name typeArgs args =>
    have hArgs := yields_exprs hp args (fun a ha => h.part (by simp [ha])) inAsync
    have hName := h.here.1 name List.mem_cons_self
    rw [expr]
    refine hArgs.andThen hL fun ts hts => yields_pure hL fun hQuiet => ?_
    rw [Expr.awaits] at hQuiet
    exact clear_callText hp hName args (hts hQuiet)
  | .object fields =>
    have hFields := yields_objectFields hp fields
      (fun f hf => h.part (List.mem_map_of_mem hf))
      (fun f hf => h.here.1 f.key (List.mem_map_of_mem hf)) inAsync
    rw [expr]
    refine hFields.andThen hL fun ts hts => yields_pure hL fun hQuiet => ?_
    rw [Expr.awaits] at hQuiet
    exact clear_template hp [.lit _, .arg (join ", " ts), .lit _] rfl
      ⟨clear_list hp (hts hQuiet), trivial⟩
  | .array elements =>
    have hElements := yields_exprs hp elements (fun a ha => h.part (by simp [ha])) inAsync
    rw [expr]
    refine hElements.andThen hL fun ts hts => yields_pure hL fun hQuiet => ?_
    rw [Expr.awaits] at hQuiet
    exact clear_template hp [.lit _, .arg (join ", " ts), .lit _] rfl
      ⟨clear_list hp (hts hQuiet), trivial⟩
  | .lambda params (.expr body) =>
    have hBody := yields_expr hp false body (h.part (by simp)) body.awaits
    have hParams := clear_params hp h
    rw [expr]
    refine (yields_nest hBody).capture hL |>.andThen hL ?_
    rintro ⟨t, ahead⟩ ⟨ht, inner, rfl, hInner⟩
    dsimp only
    split
    · rename_i hPlain
      rw [Bool.and_eq_true, Bool.not_eq_true'] at hPlain
      exact yields_pure hL fun _ => clear_lambdaText hp hParams (ht fun _ => hPlain.2)
    · refine (yields_fresh hL (clear_freshName hp rfl)).andThen hL fun name hName => ?_
      refine yields_captured (functionKind_def _ [.arg name, .lit _, .arg _, .lit _]) ?_ hInner
        (fun hQuiet => ?_) fun _ => hName
      · exact clear_template hp _ rfl ⟨clear_defText hp _, hName, hParams, trivial⟩
      · exact clear_template hp [.lit _, .arg t] rfl ⟨ht hQuiet, trivial⟩
  | .lambda params (.block body) =>
    have hBody := yields_block hp .closure body (fun s hs => h.part (by simp [hs])) id
    have hParams := clear_params hp h
    rw [expr]
    refine (yields_fresh hL (clear_freshName hp rfl)).andThen hL fun name hName => ?_
    refine (yields_function (functionKind_def _ [.arg name, .lit _, .arg _, .lit _]) ?_
      (hBody.measure (countP_due_closure _))).andThen hL fun _ _ => yields_pure hL fun _ => hName
    exact clear_template hp _ rfl ⟨clear_defText hp _, hName, hParams, trivial⟩
  | .pipe left right =>
    exact yields_pipe hp bare (h.part (by simp))
      (yields_expr hp false left (h.part (by simp)) inAsync)
      (yields_expr hp false right (h.part (by simp)) inAsync)
      (yields_callArgs hp right (h.part (by simp)) inAsync)
  | .matchOn value cases =>
    have hValue := yields_expr hp false value (h.part (by simp)) inAsync
    have hCases := fit_matchCases hp cases (fun m hm => h.part (List.mem_cons_of_mem _ hm))
      h.here.1 h.here.2 id
    rw [expr]
    refine hValue.andThen hL fun v hv => ?_
    refine (yields_fresh hL (clear_freshName hp rfl)).andThen hL fun name hName => ?_
    refine (yields_function (functionKind_def _ [.arg name, .lit _]) ?_
      (yields_planLines hp hCases)).andThen hL fun _ _ => yields_pure hL fun hQuiet => ?_
    · exact clear_template hp _ rfl ⟨clear_defText hp _, hName, trivial⟩
    · rw [Expr.awaits] at hQuiet
      obtain ⟨hNow, hLater⟩ := hQuiet.of_or
      split
      · rename_i hCasesAwait
        rw [hCasesAwait] at hLater
        exact clear_awaiting hp hLater [.lit _, .arg name, .lit _, .arg v, .lit _] rfl
          ⟨hName, hv hNow, trivial⟩
      · exact clear_template hp [.arg name, .lit _, .arg v, .lit _] rfl
          ⟨hName, hv hNow, trivial⟩
  | .async body =>
    have hBody := yields_block hp .closure body (fun s hs => h.part (by simp [hs])) fun _ =>
      Eq.refl true
    rw [expr]
    refine (yields_fresh hL (clear_freshName hp rfl)).andThen hL fun name hName => ?_
    refine (yields_function (functionKind_async (by decide) [.arg name, .lit _]) ?_
      (hBody.measure (countP_due_closure _))).andThen hL fun _ _ => yields_pure hL fun _ => ?_
    · exact clear_template hp _ rfl ⟨hName, trivial⟩
    · exact clear_template hp [.lit _, .arg name, .lit _] rfl
        ⟨hName, trivial⟩
  | .await inner =>
    have hInner := yields_expr hp false inner (h.part (by simp)) inAsync
    rw [expr]
    refine hInner.andThen hL fun t ht => yields_pure hL fun hQuiet => ?_
    rw [Expr.awaits] at hQuiet
    have hFilled : p.Clear t ∧ True := ⟨ht (hQuiet.of_imp fun _ => rfl), trivial⟩
    split
    · exact clear_awaiting hp hQuiet [.lit _, .arg t] rfl hFilled
    · exact clear_awaiting hp hQuiet [.lit _, .arg t, .lit _] rfl hFilled

/-- The arguments of a call that stands on the right of a pipe. -/
theorem yields_callArgs (hp : p ∈ phrases) (e : Expr) (h : (Node.expr e).Throughout (Spelled p))
    (inAsync : Bool) : ∀ name typeArgs args, e = .call name typeArgs args →
      (exprs args).Yields (Values p e.awaits) (Laid p inAsync 0) := by
  match e with
  | .call _ _ args =>
    rintro _ _ _ ⟨⟩
    rw [Expr.awaits]
    exact yields_exprs hp args (fun a ha => h.part (by simp [ha])) inAsync
  | .int _ | .float _ | .string _ | .bool _ | .null | .var _ | .binary _ _ _ | .unary _ _
  | .field _ _ | .index _ _ | .object _ | .array _ | .lambda _ _ | .pipe _ _ | .matchOn _ _
  | .async _ | .await _ => nofun

theorem yields_exprs (hp : p ∈ phrases) (es : List Expr)
    (h : ∀ e ∈ es, (Node.expr e).Throughout (Spelled p)) (inAsync : Bool) :
    (exprs es).Yields (Values p (Expr.anyAwaits es)) (Laid p inAsync 0) := by
  have hL := additive_laid p inAsync
  match es with
  | [] =>
    rw [exprs]
    exact yields_pure hL fun _ => nofun
  | e :: es =>
    obtain ⟨hFirst, hRest⟩ := List.forall_mem_cons.mp h
    rw [exprs, Expr.anyAwaits]
    refine (yields_expr hp false e hFirst inAsync).andThen hL fun t ht => ?_
    refine (yields_exprs hp es hRest inAsync).andThen hL fun ts hts => ?_
    exact yields_pure hL (Values.cons ht hts)

theorem yields_objectFields (hp : p ∈ phrases) (fs : List ObjectField)
    (h : ∀ f ∈ fs, (Node.expr f.value).Throughout (Spelled p)) (hKeys : ∀ f ∈ fs, p.Clear f.key)
    (inAsync : Bool) :
    (objectFields fs).Yields (Values p (Expr.fieldsAwait fs)) (Laid p inAsync 0) := by
  have hL := additive_laid p inAsync
  match fs with
  | [] =>
    rw [objectFields]
    exact yields_pure hL fun _ => nofun
  | ⟨key, value⟩ :: fs =>
    obtain ⟨hFirst, hRest⟩ := List.forall_mem_cons.mp h
    obtain ⟨hKey, hMore⟩ := List.forall_mem_cons.mp hKeys
    rw [objectFields, Expr.fieldsAwait]
    refine (yields_expr hp false value hFirst inAsync).andThen hL fun t ht => ?_
    refine (yields_objectFields hp fs hRest hMore inAsync).andThen hL fun ts hts => ?_
    refine yields_pure hL (Values.cons (fun hQuiet => ?_) hts)
    exact clear_template hp [.arg (doubleQuoted key), .lit _, .arg t] rfl
      ⟨clear_doubleQuoted hp hKey.not_mentions, ht hQuiet, trivial⟩

/-- The cases of a match fit if an await in one of them is permitted. -/
theorem fit_matchCases (hp : p ∈ phrases) (cs : List MatchCase)
    (h : ∀ m ∈ cs.flatMap MatchCase.parts, m.Throughout (Spelled p))
    (hNames : ∀ x ∈ cs.flatMap (·.pattern.names), p.Clear x)
    (hStrings : ∀ x ∈ cs.flatMap (·.pattern.strings), ¬ Mentions p.text x) {awaits : Bool}
    (hAwaits : Expr.casesAwait cs = true → awaits = true) :
    ∀ c ∈ matchCases cs, Fit p awaits c := by
  match cs with
  | [] => rw [matchCases]; nofun
  | ⟨pattern, none, body⟩ :: cs =>
    rw [List.flatMap_cons, List.forall_mem_append] at h hNames hStrings
    rw [Expr.casesAwait, Bool.or_eq_true, Bool.or_eq_true] at hAwaits
    rw [matchCases, List.forall_mem_cons]
    have hBody := yields_expr hp true body (h.1 _ (by simp)) awaits
    refine ⟨⟨hNames.1, hStrings.1, nofun, hBody.mono fun t ht => ?_⟩, ?_⟩
    · exact ht.widen fun hNow => hAwaits (.inl (.inl hNow))
    · exact fit_matchCases hp cs h.2 hNames.2 hStrings.2 fun hLater => hAwaits (.inr hLater)
  | ⟨pattern, some guard, body⟩ :: cs =>
    rw [List.flatMap_cons, List.forall_mem_append] at h hNames hStrings
    rw [Expr.casesAwait, Bool.or_eq_true, Bool.or_eq_true] at hAwaits
    rw [matchCases, List.forall_mem_cons]
    have hGuard := yields_expr hp false guard (h.1 _ (by simp)) awaits
    have hBody := yields_expr hp true body (h.1 _ (by simp)) awaits
    refine ⟨⟨hNames.1, hStrings.1, ?_, hBody.mono fun t ht => ?_⟩, ?_⟩
    · rintro _ ⟨⟩
      exact hGuard.mono fun t ht => ht.widen fun hNow => hAwaits (.inl (.inr hNow))
    · exact ht.widen fun hNow => hAwaits (.inl (.inl hNow))
    · exact fit_matchCases hp cs h.2 hNames.2 hStrings.2 fun hLater => hAwaits (.inr hLater)

theorem yields_stmt (hp : p ∈ phrases) (ctx : BodyContext) (s : Stmt)
    (h : (Node.stmt s).Throughout (Spelled p)) {inAsync : Bool}
    (hAwaits : s.awaits = true → inAsync = true) :
    (stmt ctx s).Yields (fun _ => True) (Laid p inAsync (s.flow.countP (due p ctx))) := by
  have hL := additive_laid p inAsync
  match s with
  | .assign target value =>
    have hValue := yields_expr hp true value (h.part (by simp)) inAsync
    rw [stmt, Stmt.flow, countP_due_cons rfl]
    refine hValue.andThen hL fun t ht => yields_line fun hQuiet => ?_
    exact clear_template hp [.arg target, .lit _, .arg t] rfl
      ⟨h.here.1 target List.mem_cons_self, ht.widen hAwaits hQuiet, trivial⟩
  | .reassign target value =>
    have hValue := yields_expr hp true value (h.part (by simp)) inAsync
    rw [stmt, Stmt.flow, countP_due_cons rfl]
    refine hValue.andThen hL fun t ht => yields_line fun hQuiet => ?_
    exact clear_template hp [.arg target, .lit _, .arg t] rfl
      ⟨h.here.1 target List.mem_cons_self, ht.widen hAwaits hQuiet, trivial⟩
  | .ret value =>
    have hValue := yields_expr hp true value (h.part (by simp)) inAsync
    rw [stmt, Stmt.flow]
    exact hValue.andThen hL fun t ht => yields_return hp ctx value (ht.widen hAwaits)
  | .cond condition thenBody elseBody =>
    have hCondition :=
      yields_expr hp true condition (h.part (by simp)) inAsync
    rw [Stmt.awaits, Bool.or_eq_true, Bool.or_eq_true] at hAwaits
    have hThen := yields_block hp ctx thenBody
      (fun s hs => h.part (by simp [hs])) fun hNow => hAwaits (.inl (.inr hNow))
    have hElse := yields_block hp ctx elseBody
      (fun s hs => h.part (by simp [hs])) fun hNow => hAwaits (.inr hNow)
    rw [stmt_cond, Stmt.flow, countP_due_cons rfl, List.countP_append]
    refine hCondition.andThen hL fun t ht => ?_
    refine (yields_control hp [.arg t, .lit _] rfl rfl (fun hQuiet => ?_) hThen).bind hL
      fun _ _ => ?_
    · exact ⟨ht.widen (fun hNow => hAwaits (.inl (.inl hNow))) hQuiet, trivial⟩
    · cases elseBody with
      | nil => exact yields_pure hL trivial
      | cons s ss => exact yields_control hp [] rfl rfl (fun _ => trivial) hElse
  | .forEach key value iterable body =>
    have hIterable :=
      yields_expr hp false iterable (h.part (by simp)) inAsync
    rw [Stmt.awaits, Bool.or_eq_true] at hAwaits
    have hBody := yields_block hp ctx body
      (fun s hs => h.part (by simp [hs])) fun hNow => hAwaits (.inr hNow)
    have hValue : p.Clear value := h.here.1 value (by simp [Node.names])
    rw [stmt, Stmt.flow, countP_due_cons rfl]
    refine hIterable.andThen hL fun t ht => ?_
    have hText (hQuiet : Quiet p inAsync) : p.Clear t :=
      ht.widen (fun hNow => hAwaits (.inl hNow)) hQuiet
    cases key with
    | some key =>
      have hKey : p.Clear key := h.here.1 key (by simp [Node.names])
      exact yields_control hp [.arg key, .lit _, .arg value, .lit _, .arg t,
        .lit _] rfl rfl (fun hQuiet => ⟨hKey, hValue, hText hQuiet, trivial⟩) hBody
    | none =>
      exact yields_control hp [.arg value, .lit _, .arg t, .lit _] rfl rfl
        (fun hQuiet => ⟨hValue, hText hQuiet, trivial⟩) hBody
  | .whileLoop condition body =>
    have hCondition :=
      yields_expr hp true condition (h.part (by simp)) inAsync
    rw [Stmt.awaits, Bool.or_eq_true] at hAwaits
    have hBody := yields_block hp ctx body
      (fun s hs => h.part (by simp [hs])) fun hNow => hAwaits (.inr hNow)
    rw [stmt, Stmt.flow, countP_due_cons rfl]
    refine hCondition.andThen hL fun t ht => ?_
    refine yields_control hp [.arg t, .lit _] rfl rfl (fun hQuiet => ?_) hBody
    exact ⟨ht.widen (fun hNow => hAwaits (.inl hNow)) hQuiet, trivial⟩
  | .switch value cases otherwise =>
    have hValue := yields_expr hp true value (h.part (by simp)) inAsync
    rw [Stmt.awaits, Bool.or_eq_true, Bool.or_eq_true] at hAwaits
    have hParts : ∀ m ∈ cases.flatMap SwitchCase.parts, m.Throughout (Spelled p) :=
      fun m hm => h.part (List.mem_cons_of_mem _ (List.mem_append_left _ hm))
    have hCasesAwait (hNow : Stmt.casesAwait cases = true) := hAwaits (.inl (.inr hNow))
    have hOther := yields_caseBlock hp ctx otherwise
      (fun s hs => h.part (by simp [hs])) fun hNow => hAwaits (.inr hNow)
    rw [stmt_switch, Stmt.flow, countP_due_cons rfl, List.countP_append]
    refine (yields_fresh hL (clear_freshName hp rfl)).andThen hL fun subject hSubject => ?_
    refine hValue.andThen hL fun t ht => ?_
    refine (yields_caseLabels hp cases hParts hCasesAwait).andThen hL fun labels hLabels => ?_
    refine (yields_line fun hQuiet => ?_).andThen hL fun _ _ => ?_
    · exact clear_template hp [.arg subject, .lit _, .arg t] rfl
        ⟨hSubject, ht.widen (fun hNow => hAwaits (.inl (.inl hNow))) hQuiet, trivial⟩
    refine (yields_caseLines hp ctx cases hParts hCasesAwait hLabels.1 hLabels.2 hSubject
      (.inl rfl)).bind hL fun _ _ => ?_
    split
    · exact yields_pure hL trivial
    · rw [Stmt.bodyFlow, Stmt.flow, List.cons_append, countP_due_cons rfl]
      exact yields_pure hL trivial
    · split
      · exact hOther
      · exact yields_control hp [] rfl rfl (fun _ => trivial) hOther
  | .expr value =>
    have hValue := yields_expr hp true value (h.part (by simp)) inAsync
    rw [Stmt.flow, countP_due_cons rfl]
    by_cases hNull : value = .null
    · rw [hNull, stmt]
      exact yields_line fun _ => clear_fixed hp rfl
    · rw [stmt]
      · exact hValue.andThen hL fun t ht => yields_line (ht.widen hAwaits)
      · exact hNull
  | .validate call =>
    have hCall := yields_expr hp false call (h.part (by simp)) inAsync
    rw [stmt, Stmt.flow, countP_due_cons rfl]
    refine hCall.andThen hL fun t ht => ?_
    exact yields_control hp [.arg t, .lit _] rfl rfl
      (fun hQuiet => ⟨ht.widen hAwaits hQuiet, trivial⟩)
      (yields_line fun _ => clear_validationText hp ctx)
  | .breakLoop =>
    rw [stmt, Stmt.flow, countP_due_cons rfl]
    exact yields_line fun _ => clear_fixed hp rfl
  | .continueLoop =>
    rw [stmt, Stmt.flow, countP_due_cons rfl]
    exact yields_line fun _ => clear_fixed hp rfl

theorem yields_block (hp : p ∈ phrases) (ctx : BodyContext) (ss : List Stmt)
    (h : ∀ s ∈ ss, (Node.stmt s).Throughout (Spelled p)) {inAsync : Bool}
    (hAwaits : Stmt.bodyAwaits ss = true → inAsync = true) :
    (block ctx ss).Yields (fun _ => True)
      (Laid p inAsync ((Stmt.bodyFlow ss).countP (due p ctx))) := by
  match ss with
  | [] =>
    rw [block, Stmt.bodyFlow]
    exact yields_line fun _ => clear_fixed hp rfl
  | s :: ss =>
    obtain ⟨hFirst, hRest⟩ := List.forall_mem_cons.mp h
    rw [Stmt.bodyAwaits, Bool.or_eq_true] at hAwaits
    rw [block, Stmt.bodyFlow, List.countP_append]
    refine (yields_stmt hp ctx s hFirst fun hNow => hAwaits (.inl hNow)).bind (additive_laid p _)
      fun _ _ => ?_
    exact yields_stmts hp ctx ss hRest fun hNow => hAwaits (.inr hNow)

theorem yields_stmts (hp : p ∈ phrases) (ctx : BodyContext) (ss : List Stmt)
    (h : ∀ s ∈ ss, (Node.stmt s).Throughout (Spelled p)) {inAsync : Bool}
    (hAwaits : Stmt.bodyAwaits ss = true → inAsync = true) :
    (stmts ctx ss).Yields (fun _ => True)
      (Laid p inAsync ((Stmt.bodyFlow ss).countP (due p ctx))) := by
  match ss with
  | [] =>
    rw [stmts, Stmt.bodyFlow]
    exact yields_pure (additive_laid p _) trivial
  | s :: ss =>
    obtain ⟨hFirst, hRest⟩ := List.forall_mem_cons.mp h
    rw [Stmt.bodyAwaits, Bool.or_eq_true] at hAwaits
    rw [stmts, Stmt.bodyFlow, List.countP_append]
    refine (yields_stmt hp ctx s hFirst fun hNow => hAwaits (.inl hNow)).bind (additive_laid p _)
      fun _ _ => ?_
    exact yields_stmts hp ctx ss hRest fun hNow => hAwaits (.inr hNow)

theorem yields_caseBlock (hp : p ∈ phrases) (ctx : BodyContext) (ss : List Stmt)
    (h : ∀ s ∈ ss, (Node.stmt s).Throughout (Spelled p)) {inAsync : Bool}
    (hAwaits : Stmt.bodyAwaits ss = true → inAsync = true) :
    (caseBlock ctx ss).Yields (fun _ => True)
      (Laid p inAsync ((Stmt.bodyFlow ss).countP (due p ctx))) := by
  match ss with
  | [] =>
    rw [caseBlock, Stmt.bodyFlow]
    exact yields_line fun _ => clear_fixed hp rfl
  | s :: ss =>
    obtain ⟨hFirst, hRest⟩ := List.forall_mem_cons.mp h
    rw [Stmt.bodyAwaits, Bool.or_eq_true] at hAwaits
    have hStmt := yields_stmt hp ctx s hFirst fun hNow => hAwaits (.inl hNow)
    have hStmts := yields_caseStmts hp ctx ss hRest fun hNow => hAwaits (.inr hNow)
    rw [Stmt.bodyFlow, List.countP_append]
    by_cases hBreak : s = .breakLoop ∧ ss = []
    · rw [hBreak.1, hBreak.2, caseBlock, Stmt.flow, countP_due_cons rfl]
      exact yields_line fun _ => clear_fixed hp rfl
    · rw [caseBlock]
      · exact hStmt.bind (additive_laid p _) fun _ _ => hStmts
      · exact fun hs hss => hBreak ⟨hs, hss⟩

theorem yields_caseStmts (hp : p ∈ phrases) (ctx : BodyContext) (ss : List Stmt)
    (h : ∀ s ∈ ss, (Node.stmt s).Throughout (Spelled p)) {inAsync : Bool}
    (hAwaits : Stmt.bodyAwaits ss = true → inAsync = true) :
    (caseStmts ctx ss).Yields (fun _ => True)
      (Laid p inAsync ((Stmt.bodyFlow ss).countP (due p ctx))) := by
  match ss with
  | [] =>
    rw [caseStmts, Stmt.bodyFlow]
    exact yields_pure (additive_laid p _) trivial
  | s :: ss =>
    obtain ⟨hFirst, hRest⟩ := List.forall_mem_cons.mp h
    rw [Stmt.bodyAwaits, Bool.or_eq_true] at hAwaits
    have hStmt := yields_stmt hp ctx s hFirst fun hNow => hAwaits (.inl hNow)
    have hStmts := yields_caseStmts hp ctx ss hRest fun hNow => hAwaits (.inr hNow)
    rw [Stmt.bodyFlow, List.countP_append]
    by_cases hBreak : s = .breakLoop ∧ ss = []
    · rw [hBreak.1, hBreak.2, caseStmts, Stmt.flow, countP_due_cons rfl]
      exact yields_pure (additive_laid p _) trivial
    · rw [caseStmts]
      · exact hStmt.bind (additive_laid p _) fun _ _ => hStmts
      · exact fun hs hss => hBreak ⟨hs, hss⟩

theorem yields_caseLabels (hp : p ∈ phrases) (cs : List SwitchCase)
    (h : ∀ m ∈ cs.flatMap SwitchCase.parts, m.Throughout (Spelled p)) {inAsync : Bool}
    (hAwaits : Stmt.casesAwait cs = true → inAsync = true) :
    (caseLabels cs).Yields (fun labels => labels.length = cs.length ∧ Values p inAsync labels)
      (Laid p inAsync 0) := by
  have hL := additive_laid p inAsync
  match cs with
  | [] =>
    rw [caseLabels]
    exact yields_pure hL ⟨rfl, fun _ => nofun⟩
  | ⟨value, body⟩ :: cs =>
    rw [List.flatMap_cons, List.forall_mem_append] at h
    rw [Stmt.casesAwait, Bool.or_eq_true, Bool.or_eq_true] at hAwaits
    have hValue := yields_expr hp false value (h.1 _ (by simp)) inAsync
    have hLabels := yields_caseLabels hp cs h.2 fun hNow => hAwaits (.inr hNow)
    rw [caseLabels]
    refine hValue.andThen hL fun t ht => hLabels.andThen hL fun labels hTexts => ?_
    refine yields_pure hL ⟨congrArg (· + 1) hTexts.1, fun hQuiet => ?_⟩
    exact List.forall_mem_cons.mpr
      ⟨ht.widen (fun hNow => hAwaits (.inl (.inl hNow))) hQuiet, hTexts.2 hQuiet⟩

theorem yields_caseLines (hp : p ∈ phrases) (ctx : BodyContext) (cs : List SwitchCase)
    (h : ∀ m ∈ cs.flatMap SwitchCase.parts, m.Throughout (Spelled p)) {inAsync : Bool}
    (hAwaits : Stmt.casesAwait cs = true → inAsync = true) {labels : List String}
    (hLength : labels.length = cs.length) (hLabels : Values p inAsync labels)
    {subject keyword : String} (hSubject : p.Clear subject)
    (hKeyword : keyword = "if" ∨ keyword = "elif") :
    (caseLines ctx subject keyword cs labels).Yields (fun _ => True)
      (Laid p inAsync ((Stmt.casesFlow cs).countP (due p ctx))) := by
  have hL := additive_laid p inAsync
  match cs, labels with
  | [], _ =>
    rw [caseLines, Stmt.casesFlow]
    · exact yields_pure hL trivial
    · nofun
  | ⟨value, body⟩ :: cs, label :: labels =>
    rw [List.flatMap_cons, List.forall_mem_append] at h
    rw [Stmt.casesAwait, Bool.or_eq_true, Bool.or_eq_true] at hAwaits
    have hBody := yields_caseBlock hp ctx body
      (fun s hs => h.1 _ (by simp [hs])) fun hNow => hAwaits (.inl (.inr hNow))
    have hMore := yields_caseLines hp ctx cs h.2 (fun hNow => hAwaits (.inr hNow))
      (Nat.succ.inj hLength) (fun hQuiet => (List.forall_mem_cons.mp (hLabels hQuiet)).2) hSubject
      (.inr rfl)
    have hLabel (hQuiet : Quiet p inAsync) : p.Clear label :=
      (List.forall_mem_cons.mp (hLabels hQuiet)).1
    rw [caseLines, Stmt.casesFlow, List.countP_append]
    refine Yields.bind (U := fun _ => True) hL ?_ fun _ _ => hMore
    -- the keyword decides how the header is read, so it has to be known here
    rcases hKeyword with rfl | rfl
    · exact yields_control hp [.lit _, .arg subject, .lit _, .arg label, .lit _] rfl rfl
        (fun hQuiet => ⟨hSubject, hLabel hQuiet, trivial⟩) hBody
    · exact yields_control hp [.lit _, .arg subject, .lit _, .arg label, .lit _] rfl
        rfl (fun hQuiet => ⟨hSubject, hLabel hQuiet, trivial⟩) hBody

end

/-! ## Whole bodies -/

/-- Where returning is a response on the wire, the lines of a body with such a response are as many
as its returns; elsewhere there is none. -/
theorem mentioning_wire_block (ctx : BodyContext) (body : List Stmt)
    (h : ∀ s ∈ body, (Node.stmt s).Throughout (Spelled wire)) (n : Nat) :
    mentioning [wire.text] (block ctx body n).lines =
      if ctx.status?.isSome then Stmt.returns body else 0 := by
  have hBody := yields_block (by simp [phrases] : wire ∈ phrases) ctx body h id n
  rw [mentioning_of_laid hBody.2 (fun hSame => absurd (congrArg Phrase.text hSame) (by decide))]
  unfold due Stmt.returns
  cases ctx.status? <;> simp

/-- No name and no string at a node holds `await` or a line break. -/
def Plain (n : Node) : Prop :=
  ∀ x ∈ n.names ++ n.strings, ¬ Mentions "await" x ∧ ¬ Mentions "\n" x

instance : DecidablePred Plain := fun n => inferInstanceAs (Decidable (∀ x ∈ n.names ++ n.strings, _))

theorem Plain.spelled {n : Node} (h : Plain n) : Spelled awaiting n ∧ Spelled lineBreak n := by
  obtain ⟨hNames, hStrings⟩ := List.forall_mem_append.mp h
  refine ⟨⟨fun x hx => ?_, fun x hx => (hStrings x hx).1⟩,
    ⟨fun x hx => ?_, fun x hx => (hStrings x hx).2⟩⟩
  · exact (Text.Phrase.clear_iff_not_mentions rfl).mpr (hNames x hx).1
  · exact (Text.Phrase.clear_iff_not_mentions rfl).mpr (hNames x hx).2

/-- Under a header that is asynchronous exactly if the body awaits, no line of the body has a line
break in it, and a line with an `await` has an asynchronous function as the innermost one around
it. -/
theorem async_of_awaits (ctx : BodyContext) (body : List Stmt)
    (h : ∀ s ∈ body, (Node.stmt s).Throughout Plain) (signature : String) (n : Nat) :
    mentioning ["\n"] (block ctx body n).lines = 0 ∧
      ∀ before depth text after,
        nested (block ctx body n).lines = before ++ .code depth text :: after →
        Mentions "await" text →
        ∃ header, functionOver depth
            (before.reverse ++ [.code 0 s!"{defText (Stmt.bodyAwaits body)} {signature}"]) =
              some header ∧
          functionKind header = some true := by
  refine ⟨?_, fun before depth text after hLines hAwaits => ?_⟩
  · have hSpelled := fun s hs => (h s hs).mono fun m hm => (Plain.spelled hm).2
    have hBody := yields_block (by simp [phrases] : lineBreak ∈ phrases) ctx body hSpelled id
    have hLaid := (hBody.measure (countP_due_of_ne (by decide) ctx _) n).2
    have hOther : lineBreak ≠ awaiting := fun hSame => absurd (congrArg Phrase.text hSame) (by decide)
    have hCount : mentioning [lineBreak.text] (block ctx body n).lines = 0 :=
      mentioning_of_laid hLaid hOther
    exact hCount
  · have hSpelled := fun s hs => (h s hs).mono fun m hm => (Plain.spelled hm).1
    have hBody := yields_block (by simp [phrases] : awaiting ∈ phrases) ctx body hSpelled id
    have hLaid := (hBody.measure (countP_due_of_ne (by decide) ctx _) n).2
    obtain ⟨inner, d, later, hInner, rfl, rfl⟩ := eq_append_of_nested hLines
    have hScoped := scoped_of_laid hLaid rfl hInner hAwaits
    have hKind : functionKind s!"{defText (Stmt.bodyAwaits body)} {signature}" =
        some (Stmt.bodyAwaits body) :=
      functionKind_def _ [.arg signature]
    have hHead : s!"{defText (Stmt.bodyAwaits body)} {signature}" ≠ "" := by
      intro hEmpty
      rw [hEmpty] at hKind
      cases hKind
    have hOuter : (functionKind s!"{defText (Stmt.bodyAwaits body)} {signature}").getD false =
        Stmt.bodyAwaits body := by
      rw [hKind, Option.getD_some]
    rw [nested, ← List.map_reverse]
    rcases (hOuter ▸ hScoped).under hHead with hFound | ⟨-, -, hNever⟩
    · exact hFound
    · cases hNever

/-- A body that awaits a value and matches it, with a lambda and an async block in the match. -/
def polling : List Stmt :=
  [.assign "state" (.await (.call "poll" [] [])),
    .whileLoop (.var "state")
      [.ret (.matchOn (.var "state")
        [⟨.literal (.string "late"), none, .await (.call "poll" [] [])⟩,
          ⟨.variable "x", some (.var "x"), .lambda [] (.block [.ret (.await (.var "x"))])⟩,
          ⟨.wildcard, none, .async [.ret (.await (.var "state"))]⟩])]]

theorem async_of_awaits_polling :
    (∀ s ∈ polling, (Node.stmt s).Throughout Plain) ∧
      mentioning ["await"] (block .function polling 0).lines = 5 ∧
      ∀ before depth text after,
        nested (block .function polling 0).lines = before ++ .code depth text :: after →
        Mentions "await" text →
        ∃ header, functionOver depth
            (before.reverse ++ [.code 0 s!"{defText (Stmt.bodyAwaits polling)} watch():"]) =
              some header ∧
          functionKind header = some true := by
  have hPlain : ∀ s ∈ polling, (Node.stmt s).Throughout Plain :=
    Node.body_of_check 8 (by decide +kernel)
  exact ⟨hPlain, by decide +kernel, (async_of_awaits .function polling hPlain "watch():" 0).2⟩

end ServiceCompiler.Python
