import ServiceCompiler.Proofs.Core.Within
import ServiceCompiler.Proofs.Plan.Body
import ServiceCompiler.Proofs.Target.PythonBody
import ServiceCompiler.Proofs.Target.RustBody

/-! # Breaks of switches

A `break` at the end of a case ends the case. Python and Rust write a switch as a chain of
conditions, where such a `break` would leave the loop around it, so it has to go. Main statement:
Python writes none of them, and Rust writes exactly those that end a default. -/

namespace ServiceCompiler.Text.Phrase

/-- The fixed characters of a piece. -/
def Segment.fixed : Segment → List Char
  | lit cs => cs
  | arg _ => []

/-- A text with a fixed character that a word lacks is not that word. -/
theorem spell_ne {word : String} (ps : List Segment)
    (h : (ps.any fun q => q.fixed.any fun c => !word.toList.contains c) = true) :
    spell ps ≠ word := by
  obtain ⟨q, hq, hFixed⟩ := List.any_eq_true.mp h
  obtain ⟨c, hc, hOther⟩ := List.any_eq_true.mp hFixed
  have hText : c ∈ q.text.toList := by
    cases q with
    | lit cs => simpa [Segment.text, Segment.fixed] using hc
    | arg t => cases hc
  have hMem : c ∈ (spell ps).toList := by
    rw [toList_spell]
    exact List.mem_flatMap.mpr ⟨q, hq, hText⟩
  rintro rfl
  simp [hMem] at hOther

end ServiceCompiler.Text.Phrase

namespace ServiceCompiler.Source

/-! ## Lines that are a word -/

def Line.reads (word : String) : Line → Bool
  | code _ text => text == word
  | gap => false

/-- The number of lines that are a word, at any depth. -/
def saying (word : String) (ls : List Line) : Nat := ls.countP (Line.reads word)

def Saying (word : String) (k : Nat) (ls : List Line) : Prop := saying word ls = k

variable {word : String}

theorem additive_saying (word : String) : Additive (Saying word) where
  nil := rfl
  append hFirst hSecond := by
    rw [Saying, saying, List.countP_append]
    exact congrArg₂ (· + ·) hFirst hSecond

@[simp] theorem saying_nested (ls : List Line) : saying word (nested ls) = saying word ls := by
  have hDeeper (l : Line) : l.deeper.reads word = l.reads word := by cases l <;> rfl
  simp [saying, nested, List.countP_map, Function.comp_def, hDeeper]

namespace Emit

variable {α : Type} {m : Emit α} {V : α → Prop} {text : String} {k : Nat}

theorem yields_other (h : text ≠ word) : (line text).Yields (fun _ => True) (Saying word 0) :=
  fun _ => ⟨trivial, by simpa [Saying, saying, line, Line.reads] using h⟩

theorem yields_word (word : String) : (line word).Yields (fun _ => True) (Saying word 1) :=
  fun _ => ⟨trivial, by simp [Saying, saying, line, Line.reads]⟩

theorem Yields.deeper (h : m.Yields V (Saying word k)) : (Emit.nest m).Yields V (Saying word k) :=
  fun n => ⟨(h n).1, (saying_nested _).trans (h n).2⟩

theorem Yields.under (h : m.Yields V (Saying word k)) (hText : text ≠ word) :
    (head text m).Yields V (Saying word k) :=
  (yields_other hText).andThen (additive_saying word) fun _ _ => h.deeper

end Emit

end ServiceCompiler.Source

namespace ServiceCompiler.Core

/-! ## Where a break may stand -/

/-- A switch whose default ends by a `break`. -/
def Stmt.breaksDefault : Stmt → Bool
  | .switch _ _ otherwise => endsByBreak otherwise
  | _ => false

/-- All expressions are literals, there are no loops, and a `break` is the last statement of a case
or of a default. -/
def Unlooped : Node → Prop
  | .expr e => e.isLiteral = true
  | .stmt (.cond _ thenBody elseBody) =>
    thenBody.countP Stmt.isBreak = 0 ∧ elseBody.countP Stmt.isBreak = 0
  | .stmt (.switch _ cases otherwise) =>
    (∀ c ∈ cases, Stmt.BreaksLast c.body) ∧ Stmt.BreaksLast otherwise
  | .stmt (.forEach _ _ _ _) | .stmt (.whileLoop _ _) => False
  | _ => True

instance : DecidablePred Unlooped
  | .expr e => inferInstanceAs (Decidable (e.isLiteral = true))
  | .stmt s =>
    match s with
    | .cond _ thenBody elseBody =>
      inferInstanceAs (Decidable
        (thenBody.countP Stmt.isBreak = 0 ∧ elseBody.countP Stmt.isBreak = 0))
    | .switch _ cases otherwise =>
      inferInstanceAs (Decidable ((∀ c ∈ cases, c.body.dropLast.countP Stmt.isBreak = 0) ∧
        otherwise.dropLast.countP Stmt.isBreak = 0))
    | .forEach _ _ _ _ | .whileLoop _ _ => .isFalse id
    | .assign _ _ | .reassign _ _ | .ret _ | .expr _ | .validate _ | .breakLoop | .continueLoop =>
      .isTrue trivial
  | .ty _ | .field _ => .isTrue trivial

theorem isLiteral_of_part {n : Node} (h : n.Throughout Unlooped) {e : Expr}
    (hPart : .expr e ∈ n.parts) : e.isLiteral = true :=
  (h.part hPart).here

end ServiceCompiler.Core

namespace ServiceCompiler.Python

open ServiceCompiler.Core (Expr Stmt SwitchCase Node Unlooped isLiteral_of_part)
open Plan (BodyContext withoutLastBreak)
open Source (Saying additive_saying)
open Source.Emit (Yields yields_pure yields_fresh yields_other yields_word)
open Text.Phrase (spell_ne)

/-! ## Python -/

theorem doubleQuoted_ne (s : String) : Text.doubleQuoted s ≠ "break" := by
  intro hSame
  have hFirst := congrArg (fun t => t.toList.head?) hSame
  simp [Text.doubleQuoted, Text.quote, Text.quoteChars] at hFirst

/-- A phrase for the word, which is in no number. -/
def breaking : Text.Phrase := ⟨"break", _, rfl, none, by decide⟩

theorem ne_of_clear {t : String} (h : breaking.Clear t) : t ≠ "break" := by
  rintro rfl
  exact h.not_mentions (by decide)

theorem floatText_ne (x : Float) : floatText x ≠ "break" := by
  unfold floatText
  split
  · decide
  · split <;> decide
  · exact ne_of_clear (Text.Phrase.clear_render (by decide) _ x)

theorem yields_literal {e : Expr} (h : e.isLiteral = true) (bare : Bool) :
    (expr bare e).Yields (· ≠ "break") (Saying "break" 0) := by
  have hL := additive_saying "break"
  cases e with
  | int n =>
    rw [expr]
    exact yields_pure hL (ne_of_clear (Text.Phrase.clear_int (by decide) n.toInt))
  | float x =>
    rw [expr]
    exact yields_pure hL (floatText_ne x)
  | string s =>
    rw [expr]
    exact yields_pure hL (doubleQuoted_ne s)
  | bool b =>
    rw [expr]
    exact yields_pure hL (by cases b <;> decide)
  | null =>
    rw [expr]
    exact yields_pure hL (by decide)
  | _ => cases h

theorem caseStmts_eq (ctx : BodyContext) (ss : List Stmt) :
    caseStmts ctx ss = stmts ctx (withoutLastBreak ss) := by
  induction ss using Plan.lastBreak_induct with
  | nil => rw [caseStmts, withoutLastBreak, stmts]
  | last => rw [caseStmts, withoutLastBreak, stmts]
  | step s ss hOther ih =>
    rw [caseStmts, withoutLastBreak, stmts, ih]
    · exact hOther
    · exact hOther

theorem caseBlock_eq (ctx : BodyContext) (ss : List Stmt) :
    caseBlock ctx ss = block ctx (withoutLastBreak ss) := by
  cases ss with
  | nil => rw [caseBlock, withoutLastBreak, block]
  | cons s ss =>
    by_cases hBreak : s = .breakLoop ∧ ss = []
    · rw [hBreak.1, hBreak.2, caseBlock, withoutLastBreak, block]
    · rw [caseBlock, withoutLastBreak, block, caseStmts_eq]
      · exact fun hs hss => hBreak ⟨hs, hss⟩
      · exact fun hs hss => hBreak ⟨hs, hss⟩

/-- The lines of a statement have a `break` if the statement is one. -/
def BreaksAlone (ctx : BodyContext) (s : Stmt) : Prop :=
  (stmt ctx s).Yields (fun _ => True) (Saying "break" (if s.isBreak then 1 else 0))

variable {ctx : BodyContext} {ss : List Stmt}

theorem yields_stmts_breaks (h : ∀ s ∈ ss, BreaksAlone ctx s) :
    (stmts ctx ss).Yields (fun _ => True) (Saying "break" (ss.countP Stmt.isBreak)) := by
  have hL := additive_saying "break"
  induction ss with
  | nil =>
    rw [stmts]
    exact yields_pure hL trivial
  | cons s ss ih =>
    obtain ⟨hFirst, hRest⟩ := List.forall_mem_cons.mp h
    rw [stmts, List.countP_cons, Nat.add_comm]
    exact hFirst.bind hL fun _ _ => ih hRest

theorem yields_block_breaks (h : ∀ s ∈ ss, BreaksAlone ctx s) :
    (block ctx ss).Yields (fun _ => True) (Saying "break" (ss.countP Stmt.isBreak)) := by
  cases ss with
  | nil =>
    rw [block]
    exact yields_other (by decide)
  | cons s ss =>
    have hBlock : block ctx (s :: ss) = stmts ctx (s :: ss) := by rw [block, stmts]
    rw [hBlock]
    exact yields_stmts_breaks h

theorem yields_caseBlock_breaks (hLast : Stmt.BreaksLast ss) (h : ∀ s ∈ ss, BreaksAlone ctx s) :
    (caseBlock ctx ss).Yields (fun _ => True) (Saying "break" 0) := by
  rw [caseBlock_eq, ← Plan.countP_isBreak_withoutLastBreak hLast]
  exact yields_block_breaks fun s hs => h s (Plan.mem_of_mem_withoutLastBreak hs)

theorem yields_caseLabels_breaks {cs : List SwitchCase}
    (h : ∀ c ∈ cs, c.value.isLiteral = true) :
    (caseLabels cs).Yields (fun _ => True) (Saying "break" 0) := by
  have hL := additive_saying "break"
  induction cs with
  | nil =>
    rw [caseLabels]
    exact yields_pure hL trivial
  | cons c cs ih =>
    obtain ⟨hFirst, hRest⟩ := List.forall_mem_cons.mp h
    obtain ⟨value, body⟩ := c
    rw [caseLabels]
    refine (yields_literal hFirst false).andThen hL fun t _ => ?_
    exact (ih hRest).andThen hL fun ts _ => yields_pure hL trivial

theorem yields_caseLines_breaks {cs : List SwitchCase}
    (h : ∀ c ∈ cs, (caseBlock ctx c.body).Yields (fun _ => True) (Saying "break" 0))
    (subject keyword : String) (labels : List String) :
    (caseLines ctx subject keyword cs labels).Yields (fun _ => True) (Saying "break" 0) := by
  have hL := additive_saying "break"
  induction cs generalizing keyword labels with
  | nil =>
    rw [caseLines]
    · exact yields_pure hL trivial
    · simp
  | cons c cs ih =>
    obtain ⟨hFirst, hRest⟩ := List.forall_mem_cons.mp h
    obtain ⟨value, body⟩ := c
    cases labels with
    | nil =>
      rw [caseLines]
      · exact yields_pure hL trivial
      · simp
    | cons label labels =>
      rw [caseLines]
      refine (hFirst.under ?_).andThen hL fun _ _ => ih hRest _ _
      exact spell_ne [.arg keyword, .lit _, .arg subject, .lit _, .arg label, .lit _] rfl

theorem returnText_ne (ctx : BodyContext) (value : String) : returnText ctx value ≠ "break" := by
  unfold returnText
  split
  · exact spell_ne [.lit _, .arg value, .lit _] rfl
  · exact spell_ne [.lit _, .arg value, .lit _] rfl
  · exact spell_ne [.lit _, .arg value] rfl

theorem validationText_ne (ctx : BodyContext) : validationText ctx ≠ "break" := by
  unfold validationText
  split <;> decide

theorem breaksAlone_cond {condition : Expr} {thenBody elseBody : List Stmt}
    (hCondition : condition.isLiteral = true)
    (hThen : (block ctx thenBody).Yields (fun _ => True) (Saying "break" 0))
    (hElse : (block ctx elseBody).Yields (fun _ => True) (Saying "break" 0)) :
    BreaksAlone ctx (.cond condition thenBody elseBody) := by
  have hL := additive_saying "break"
  rw [BreaksAlone, stmt_cond]
  refine (yields_literal hCondition true).andThen hL fun t _ => ?_
  refine (hThen.under (spell_ne [.lit _, .arg t, .lit _] rfl)).andThen hL fun _ _ => ?_
  cases elseBody with
  | nil => exact yields_pure hL trivial
  | cons s ss => exact hElse.under (by decide)

theorem breaksAlone_switch {value : Expr} {cases : List SwitchCase} {otherwise : List Stmt}
    (hValue : value.isLiteral = true) (hLabels : ∀ c ∈ cases, c.value.isLiteral = true)
    (hCases : ∀ c ∈ cases, (caseBlock ctx c.body).Yields (fun _ => True) (Saying "break" 0))
    (hOther : (caseBlock ctx otherwise).Yields (fun _ => True) (Saying "break" 0)) :
    BreaksAlone ctx (.switch value cases otherwise) := by
  have hL := additive_saying "break"
  rw [BreaksAlone, stmt_switch]
  refine (yields_fresh hL (V := fun _ => True) fun _ => trivial).andThen hL fun subject _ => ?_
  refine (yields_literal hValue true).andThen hL fun t _ => ?_
  refine (yields_caseLabels_breaks hLabels).andThen hL fun labels _ => ?_
  refine (yields_other (spell_ne [.arg subject, .lit _, .arg t] rfl)).andThen hL fun _ _ => ?_
  refine (yields_caseLines_breaks hCases subject "if" labels).andThen hL fun _ _ => ?_
  split
  · exact yields_pure hL trivial
  · exact yields_pure hL trivial
  · split
    · exact hOther
    · exact hOther.under (by decide)

theorem breaksAlone_of_unlooped (ctx : BodyContext) (s : Stmt)
    (h : (Node.stmt s).Throughout Unlooped) : BreaksAlone ctx s := by
  have hL := additive_saying "break"
  induction s using Node.stmt_induct with
  | step s ih =>
  have hParts {ss : List Stmt} (hIn : ∀ t ∈ ss, Node.stmt t ∈ s.parts) :
      ∀ t ∈ ss, BreaksAlone ctx t :=
    fun t ht => ih t (hIn t ht) (h.part (hIn t ht))
  cases s with
  | assign target value =>
    have hValue : value.isLiteral = true := isLiteral_of_part h (by simp)
    rw [BreaksAlone, stmt]
    refine (yields_literal hValue true).andThen hL fun t _ => yields_other ?_
    exact spell_ne [.arg target, .lit _, .arg t] rfl
  | reassign target value =>
    have hValue : value.isLiteral = true := isLiteral_of_part h (by simp)
    rw [BreaksAlone, stmt]
    refine (yields_literal hValue true).andThen hL fun t _ => yields_other ?_
    exact spell_ne [.arg target, .lit _, .arg t] rfl
  | ret value =>
    have hValue : value.isLiteral = true := isLiteral_of_part h (by simp)
    rw [BreaksAlone, stmt]
    exact (yields_literal hValue true).andThen hL fun t _ => yields_other (returnText_ne ctx t)
  | cond condition thenBody elseBody =>
    obtain ⟨hThen, hElse⟩ := h.here
    refine breaksAlone_cond (isLiteral_of_part h (by simp)) ?_ ?_
    · exact (yields_block_breaks (hParts fun t ht => by simp [ht])).measure hThen
    · exact (yields_block_breaks (hParts fun t ht => by simp [ht])).measure hElse
  | forEach key value iterable body => exact h.here.elim
  | whileLoop condition body => exact h.here.elim
  | switch value cases otherwise =>
    obtain ⟨hCases, hOther⟩ := h.here
    refine breaksAlone_switch (isLiteral_of_part h (by simp)) ?_ ?_ ?_
    · exact fun c hc => isLiteral_of_part h (Node.part_of_case hc List.mem_cons_self)
    · intro c hc
      exact yields_caseBlock_breaks (hCases c hc)
        (hParts fun t ht => Node.stmt_part_of_case hc ht)
    · exact yields_caseBlock_breaks hOther (hParts fun t ht => by simp [ht])
  | expr e =>
    have hValue : e.isLiteral = true := isLiteral_of_part h (by simp)
    rw [BreaksAlone]
    by_cases hNull : e = .null
    · rw [hNull, stmt]
      exact yields_other (by decide)
    · rw [stmt]
      · exact (yields_literal hValue true).andThen hL fun t ht => yields_other ht
      · exact hNull
  | validate call =>
    have hValue : call.isLiteral = true := isLiteral_of_part h (by simp)
    rw [BreaksAlone, stmt]
    refine (yields_literal hValue false).andThen hL fun t _ => ?_
    exact (yields_other (validationText_ne ctx)).under (spell_ne [.lit _, .arg t, .lit _] rfl)
  | breakLoop =>
    rw [BreaksAlone, stmt]
    exact yields_word "break"
  | continueLoop =>
    rw [BreaksAlone, stmt]
    exact yields_other (by decide)

end ServiceCompiler.Python

namespace ServiceCompiler.Rust

open ServiceCompiler.Core (Expr Stmt SwitchCase Node Unlooped isLiteral_of_part)
open Plan (BodyContext withoutLastBreak)
open Source (Saying additive_saying)
open Source.Emit (Yields yields_pure yields_fresh yields_other yields_word)
open Text.Phrase (spell_ne)

/-! ## Rust -/

variable {env : Env} {sc : Scope} {ss : List Stmt} {cs : List SwitchCase}

theorem json_ne (text : String) : s!"{json text};" ≠ "break;" :=
  spell_ne [.lit _, .arg text, .lit _, .lit _] rfl

theorem floatText_ne (x : Float) : s!"{floatText x};" ≠ "break;" := by
  unfold floatText
  split
  · exact json_ne _
  · decide

theorem yields_literal (env : Env) (sc : Scope) {e : Expr} (h : e.isLiteral = true) :
    (expr env sc e).Yields (fun t => s!"{t.owned};" ≠ "break;") (Saying "break;" 0) := by
  have hL := additive_saying "break;"
  cases e with
  | int n =>
    rw [expr]
    exact yields_pure hL (json_ne _)
  | float x =>
    rw [expr]
    exact yields_pure hL (floatText_ne x)
  | string s =>
    rw [expr]
    exact yields_pure hL (json_ne _)
  | bool b =>
    rw [expr]
    exact yields_pure hL (json_ne _)
  | null =>
    rw [expr]
    exact yields_pure hL (by decide)
  | _ => cases h

theorem caseStmts_eq (env : Env) (sc : Scope) (ss : List Stmt) :
    caseStmts env sc ss = stmts env sc (withoutLastBreak ss) := by
  induction ss using Plan.lastBreak_induct generalizing sc with
  | nil => rw [caseStmts, withoutLastBreak, stmts]
  | last => rw [caseStmts, withoutLastBreak, stmts]
  | step s ss hOther ih =>
    rw [caseStmts, withoutLastBreak, stmts, ih]
    · exact hOther
    · exact hOther

/-- The lines of a statement have a `break` if the statement is one, and one for each default in it
that ends by one. -/
def BreaksDefaults (env : Env) (s : Stmt) : Prop :=
  ∀ sc, (stmt env sc s).Yields (fun _ => True)
    (Saying "break;" (s.flow.countP Stmt.breaksDefault + if s.isBreak then 1 else 0))

theorem yields_stmts_breaks (sc : Scope) (h : ∀ s ∈ ss, BreaksDefaults env s) :
    (stmts env sc ss).Yields (fun _ => True)
      (Saying "break;"
        ((Stmt.bodyFlow ss).countP Stmt.breaksDefault + ss.countP Stmt.isBreak)) := by
  have hL := additive_saying "break;"
  induction ss generalizing sc with
  | nil =>
    rw [stmts]
    exact yields_pure hL trivial
  | cons s ss ih =>
    obtain ⟨hFirst, hRest⟩ := List.forall_mem_cons.mp h
    rw [stmts, Stmt.bodyFlow, List.countP_append, List.countP_cons]
    refine ((hFirst sc).bind hL fun _ _ => ih _ hRest).measure ?_
    omega

theorem yields_caseStmts_breaks (sc : Scope) (hLast : Stmt.BreaksLast ss)
    (h : ∀ s ∈ ss, BreaksDefaults env s) :
    (caseStmts env sc ss).Yields (fun _ => True)
      (Saying "break;" ((Stmt.bodyFlow ss).countP Stmt.breaksDefault)) := by
  rw [caseStmts_eq, ← Plan.countP_bodyFlow_withoutLastBreak rfl ss]
  refine (yields_stmts_breaks sc fun s hs => h s (Plan.mem_of_mem_withoutLastBreak hs)).measure ?_
  rw [Plan.countP_isBreak_withoutLastBreak hLast, Nat.add_zero]

theorem yields_caseLabels_breaks (sc : Scope) (h : ∀ c ∈ cs, c.value.isLiteral = true) :
    (caseLabels env sc cs).Yields (fun labels => labels.length = cs.length)
      (Saying "break;" 0) := by
  have hL := additive_saying "break;"
  induction cs with
  | nil =>
    rw [caseLabels]
    exact yields_pure hL rfl
  | cons c cs ih =>
    obtain ⟨hFirst, hRest⟩ := List.forall_mem_cons.mp h
    obtain ⟨value, body⟩ := c
    rw [caseLabels]
    refine (yields_literal env sc hFirst).andThen hL fun t _ => ?_
    exact (ih hRest).andThen hL fun labels hLength => yields_pure hL (congrArg (· + 1) hLength)

theorem yields_caseLines_breaks (sc : Scope)
    (h : ∀ c ∈ cs, ∀ sc, (caseStmts env sc c.body).Yields (fun _ => True)
      (Saying "break;" ((Stmt.bodyFlow c.body).countP Stmt.breaksDefault)))
    (subject keyword : String) {labels : List String} (hLength : labels.length = cs.length) :
    (caseLines env sc subject keyword cs labels).Yields (fun _ => True)
      (Saying "break;" ((Stmt.casesFlow cs).countP Stmt.breaksDefault)) := by
  have hL := additive_saying "break;"
  induction cs generalizing sc keyword labels with
  | nil =>
    rw [caseLines]
    · exact yields_pure hL trivial
    · simp
  | cons c cs ih =>
    obtain ⟨hFirst, hRest⟩ := List.forall_mem_cons.mp h
    obtain ⟨value, body⟩ := c
    obtain ⟨label, labels, rfl⟩ := List.exists_cons_of_length_eq_add_one hLength
    rw [caseLines, Stmt.casesFlow, List.countP_append]
    refine (yields_other ?_).andThen hL fun _ _ => (hFirst sc).deeper.bind hL fun _ _ => ?_
    · exact spell_ne [.arg keyword, .lit _, .arg subject, .lit _, .arg label, .lit _] rfl
    · exact ih _ hRest _ (Nat.succ.inj hLength)

theorem returnText_ne (ctx : BodyContext) (value : String) : returnText ctx value ≠ "break;" := by
  unfold returnText
  split <;> exact spell_ne [.lit _, .arg value, .lit _] rfl

theorem validationText_ne (ctx : BodyContext) : validationText ctx ≠ "break;" := by
  unfold validationText
  split <;> decide

theorem breaksDefaults_cond {condition : Expr} {thenBody elseBody : List Stmt}
    (hCondition : condition.isLiteral = true)
    (hThen : ∀ s ∈ thenBody, BreaksDefaults env s) (hElse : ∀ s ∈ elseBody, BreaksDefaults env s)
    (hNoThen : thenBody.countP Stmt.isBreak = 0) (hNoElse : elseBody.countP Stmt.isBreak = 0) :
    BreaksDefaults env (.cond condition thenBody elseBody) := by
  have hL := additive_saying "break;"
  intro sc
  have hCount : (Stmt.cond condition thenBody elseBody).flow.countP Stmt.breaksDefault + 0 =
      (Stmt.bodyFlow thenBody).countP Stmt.breaksDefault +
        (Stmt.bodyFlow elseBody).countP Stmt.breaksDefault := by
    rw [Stmt.flow, List.countP_cons, List.countP_append]
    rfl
  have hInner := (yields_stmts_breaks sc hThen).measure (by rw [hNoThen, Nat.add_zero])
  rw [stmt_cond]
  refine Yields.measure ?_ hCount.symm
  refine (yields_literal env sc hCondition).andThen hL fun t _ => ?_
  refine (yields_other (spell_ne [.lit _, .arg t.tested, .lit _] rfl)).andThen hL fun _ _ => ?_
  refine hInner.deeper.bind hL fun _ _ => ?_
  cases elseBody with
  | nil => exact yields_other (by decide)
  | cons s ss =>
    have hOuter := (yields_stmts_breaks (sc.knowing (closuresOf thenBody)) hElse).measure
      (by rw [hNoElse, Nat.add_zero])
    refine (yields_other (by decide)).andThen hL fun _ _ => ?_
    exact hOuter.deeper.andLast hL fun _ _ => yields_other (by decide)

theorem breaksDefaults_switch {value : Expr} {otherwise : List Stmt}
    (hValue : value.isLiteral = true) (hLabels : ∀ c ∈ cs, c.value.isLiteral = true)
    (hCases : ∀ c ∈ cs, ∀ sc, (caseStmts env sc c.body).Yields (fun _ => True)
      (Saying "break;" ((Stmt.bodyFlow c.body).countP Stmt.breaksDefault)))
    (hOther : ∀ s ∈ otherwise, BreaksDefaults env s) (hLast : Stmt.BreaksLast otherwise) :
    BreaksDefaults env (.switch value cs otherwise) := by
  have hL := additive_saying "break;"
  intro sc
  -- breaks of the cases are dropped with their last statement; those of the default stay
  have hCount : (Stmt.switch value cs otherwise).flow.countP Stmt.breaksDefault + 0 =
      (Stmt.casesFlow cs).countP Stmt.breaksDefault +
        ((Stmt.bodyFlow otherwise).countP Stmt.breaksDefault + otherwise.countP Stmt.isBreak) := by
    rw [Stmt.flow, List.countP_cons, List.countP_append, hLast.countP_isBreak, Stmt.breaksDefault]
    omega
  have hDefault := yields_stmts_breaks (sc.knowing (closuresOfCases cs)) hOther
  rw [stmt_switch]
  refine Yields.measure ?_ hCount.symm
  refine (yields_literal env sc hValue).andThen hL fun t _ => ?_
  refine (yields_fresh hL (V := fun _ => True) fun _ => trivial).andThen hL fun subject _ => ?_
  refine (yields_caseLabels_breaks sc hLabels).andThen hL fun labels hLength => ?_
  refine (yields_other (spell_ne [.lit _, .arg subject, .lit _, .arg t.owned, .lit _] rfl)).andThen
    hL fun _ _ => ?_
  refine (yields_caseLines_breaks sc hCases subject "if" hLength).bind hL fun _ _ => ?_
  split
  · exact hDefault
  · cases otherwise with
    | nil => exact yields_other (by decide)
    | cons s ss =>
      refine (yields_other (by decide)).andThen hL fun _ _ => ?_
      exact hDefault.deeper.andLast hL fun _ _ => yields_other (by decide)

theorem breaksDefaults_of_unlooped (env : Env) (s : Stmt)
    (h : (Node.stmt s).Throughout Unlooped) : BreaksDefaults env s := by
  have hL := additive_saying "break;"
  induction s using Node.stmt_induct with
  | step s ih =>
  have hParts {ss : List Stmt} (hIn : ∀ t ∈ ss, Node.stmt t ∈ s.parts) :
      ∀ t ∈ ss, BreaksDefaults env t :=
    fun t ht => ih t (hIn t ht) (h.part (hIn t ht))
  cases s with
  | assign target value =>
    have hValue : value.isLiteral = true := isLiteral_of_part h (by simp)
    intro sc
    rw [stmt]
    · refine (yields_literal env sc hValue).andThen hL fun t _ => yields_other ?_
      exact spell_ne [.lit _, .arg (sc.pattern target), .lit _, .arg t.owned, .lit _] rfl
    · rintro params body rfl
      cases hValue
  | reassign target value =>
    have hValue : value.isLiteral = true := isLiteral_of_part h (by simp)
    intro sc
    rw [stmt]
    refine (yields_literal env sc hValue).andThen hL fun t _ => yields_other ?_
    exact spell_ne [.arg (ident target), .lit _, .arg t.owned, .lit _] rfl
  | ret value =>
    intro sc
    rw [stmt]
    refine (yields_literal env sc (isLiteral_of_part h (by simp))).andThen hL fun t _ => ?_
    exact yields_other (returnText_ne sc.context t.owned)
  | cond condition thenBody elseBody =>
    obtain ⟨hThen, hElse⟩ := h.here
    refine breaksDefaults_cond (isLiteral_of_part h (by simp)) ?_ ?_ hThen hElse
    · exact hParts fun t ht => by simp [ht]
    · exact hParts fun t ht => by simp [ht]
  | forEach key value iterable body => exact h.here.elim
  | whileLoop condition body => exact h.here.elim
  | switch value cases otherwise =>
    obtain ⟨hCases, hOther⟩ := h.here
    refine breaksDefaults_switch (isLiteral_of_part h (by simp)) ?_ ?_ ?_ hOther
    · exact fun c hc => isLiteral_of_part h (Node.part_of_case hc List.mem_cons_self)
    · intro c hc sc
      exact yields_caseStmts_breaks sc (hCases c hc)
        (hParts fun t ht => Node.stmt_part_of_case hc ht)
    · exact hParts fun t ht => by simp [ht]
  | expr e =>
    intro sc
    by_cases hNull : e = .null
    · rw [hNull, stmt]
      exact yields_other (by decide)
    · rw [stmt]
      · refine (yields_literal env sc (isLiteral_of_part h (by simp))).andThen hL fun t ht => ?_
        exact yields_other ht
      · exact hNull
  | validate call =>
    intro sc
    rw [stmt]
    refine (yields_literal env sc (isLiteral_of_part h (by simp))).andThen hL fun t _ => ?_
    refine (yields_other ?_).andThen hL fun _ _ => ?_
    · exact spell_ne [.lit _, .arg t.tested, .lit _, .lit _] rfl
    refine (yields_other (validationText_ne sc.context)).deeper.andThen hL fun _ _ => ?_
    exact yields_other (by decide)
  | breakLoop =>
    intro sc
    rw [stmt]
    exact yields_word "break;"
  | continueLoop =>
    intro sc
    rw [stmt]
    exact yields_other (by decide)

end ServiceCompiler.Rust

namespace ServiceCompiler

open ServiceCompiler.Core (Expr Stmt SwitchCase Node Unlooped)
open Source (saying)

/-! ## Switches -/

/-- Of the breaks that end cases and defaults, Python writes none. Rust writes those that end a
default, of the switch or of one inside it. -/
theorem breaks_of_switch (value : Expr) (cases : List SwitchCase) (otherwise : List Stmt)
    (h : (Node.stmt (.switch value cases otherwise)).Throughout Unlooped) (n : Nat) :
    (∀ ctx, saying "break" (Python.stmt ctx (.switch value cases otherwise) n).lines = 0) ∧
      ∀ env sc, saying "break;" (Rust.stmt env sc (.switch value cases otherwise) n).lines =
        (Stmt.switch value cases otherwise).flow.countP Stmt.breaksDefault :=
  ⟨fun ctx => (Python.breaksAlone_of_unlooped ctx _ h n).2,
    fun env sc => (Rust.breaksDefaults_of_unlooped env _ h sc n).2⟩

/-- Cases of a switch, one of them with a switch of its own. -/
def parcels : List SwitchCase :=
  [⟨.string "new", [.reassign "weight" (.float 1.5), .breakLoop]⟩,
    ⟨.string "old", [.cond (.bool true)
      [.switch .null [⟨.int 3, [.breakLoop]⟩] [.expr .null, .breakLoop]] [.continueLoop],
      .breakLoop]⟩,
    ⟨.string "lost", []⟩]

theorem breaks_of_switch_parcels :
    (Node.stmt (.switch (.string "old") parcels [.ret (.int 4)])).Throughout Unlooped ∧
      (∀ ctx, saying "break"
        (Python.stmt ctx (.switch (.string "old") parcels [.ret (.int 4)]) 0).lines = 0) ∧
      ∀ env sc, saying "break;"
        (Rust.stmt env sc (.switch (.string "old") parcels [.ret (.int 4)]) 0).lines = 1 := by
  have hCheck : (Node.stmt (.switch (.string "old") parcels [.ret (.int 4)])).check Unlooped 8 =
      true := by
    decide +kernel
  have hUnlooped := Node.throughout_of_check hCheck
  exact ⟨hUnlooped, breaks_of_switch _ parcels _ hUnlooped 0⟩

/-- A switch with a `break` at the end of its case and of its default. -/
def handover : Stmt :=
  .switch (.int 1) [⟨.int 2, [.breakLoop]⟩] [.assign "x" (.int 3), .breakLoop]

/-- The second `break` is written, where it would leave a loop around the switch. -/
theorem break_of_handover :
    (Node.stmt handover).Throughout Unlooped ∧
      (Rust.stmt (.of (.empty "post")) .outer handover 0).lines =
        [.code 0 "let __switch_0 = json!(1);", .code 0 "if __switch_0 == json!(2) \x7b",
          .code 0 "\x7d else \x7b", .code 1 "let x = json!(3);", .code 1 "break;",
          .code 0 "\x7d"] := by
  have hCheck : (Node.stmt handover).check Unlooped 4 = true := by decide +kernel
  exact ⟨Node.throughout_of_check hCheck, by decide +kernel⟩

end ServiceCompiler
