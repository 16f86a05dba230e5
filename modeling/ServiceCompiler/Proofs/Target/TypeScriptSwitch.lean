import ServiceCompiler.Proofs.Plan.Body
import ServiceCompiler.Proofs.Source.Block
import ServiceCompiler.Proofs.Target.TypeScriptBody

/-! # Cases of TypeScript switches

Control runs from the end of a case into the next one unless the case ends by leaving. The blocks of
a switch are read back from its lines by their depth. Main statement: every block of a case that is
read so ends in a line that leaves it, directly inside of the block. -/

namespace ServiceCompiler.TypeScript

open ServiceCompiler.Core (Expr Stmt SwitchCase)
open Plan (BodyContext)
open Source (Emit Line Block nested readBlocks lastInside readBlocks_block)
open Source.Emit (line nest only braces)

/-- The statements that leave a case. -/
inductive Leaves : String → Prop
  | breaking : Leaves "break;"
  | continuing : Leaves "continue;"
  | returning (value : String) : Leaves s!"return {value};"

/-- The last of the lines is not nested and leaves. -/
def Leaving (ls : List Line) : Prop :=
  ∃ before text, ls = before ++ [Line.code 0 text] ∧ Leaves text

theorem Leaving.after {ls : List Line} (h : Leaving ls) (before : List Line) :
    Leaving (before ++ ls) := by
  obtain ⟨earlier, text, rfl, hText⟩ := h
  exact ⟨before ++ earlier, text, (List.append_assoc _ _ _).symm, hText⟩

theorem leaving_line {text : String} (h : Leaves text) : Leaving [.code 0 text] :=
  ⟨[], text, rfl, h⟩

/-! ## Bodies that end by leaving -/

/-- A value handed to a function is returned. -/
theorem leaves_applied {opening closing : String} (function value : String)
    (hOpening : "return " ++ function = opening) (hClosing : ")" ++ ";" = closing) :
    Leaves (opening ++ value ++ closing) := by
  have hText : opening ++ value ++ closing = "return " ++ (function ++ value ++ ")") ++ ";" := by
    rw [← hOpening, ← hClosing]
    simp [String.append_assoc]
  rw [hText]
  exact .returning _

theorem leaving_returnTexts (ctx : BodyContext) (value : String) :
    Leaving ((returnTexts ctx value).map (.code 0)) := by
  unfold returnTexts
  split
  · exact leaving_line (leaves_applied "res.status(201).json(" value rfl rfl)
  · exact leaving_line (leaves_applied "res.json(" value rfl rfl)
  · exact (leaving_line (.returning "call.end()")).after [.code 0 _]
  · exact leaving_line (leaves_applied "callback(null, " value rfl rfl)
  · exact leaving_line (.returning value)

theorem leaving_stmt (sc : Scope) {s : Stmt} (h : s.isTerminal = true) (n : Nat) :
    Leaving (stmt sc s n).lines := by
  cases s with
  | ret value =>
    rw [stmt]
    exact (leaving_returnTexts sc.context _).after _
  | breakLoop =>
    rw [stmt]
    exact leaving_line .breaking
  | continueLoop =>
    rw [stmt]
    exact leaving_line .continuing
  | _ => cases h

theorem leaving_stmts (sc : Scope) {ss : List Stmt} (h : Plan.passesOn ss = false) (n : Nat) :
    Leaving (stmts sc ss n).lines := by
  induction ss generalizing n with
  | nil => cases h
  | cons s ss ih =>
    rw [stmts]
    cases ss with
    | nil =>
      rw [Plan.passesOn, List.getLast?_singleton] at h
      have hStmt := leaving_stmt sc (by simpa using h) n
      rw [stmts]
      simpa using hStmt
    | cons t ts =>
      have hLast : (s :: t :: ts).getLast? = (t :: ts).getLast? := List.getLast?_cons_cons
      rw [Plan.passesOn, hLast] at h
      exact (ih h _).after _

theorem caseStmts_eq (sc : Scope) (ss : List Stmt) :
    caseStmts sc ss = stmts sc (Plan.withoutLastBreak ss) := by
  induction ss using Plan.lastBreak_induct with
  | nil => rw [caseStmts, Plan.withoutLastBreak, stmts]
  | last => rw [caseStmts, Plan.withoutLastBreak, stmts]
  | step s ss hOther ih =>
    rw [caseStmts, Plan.withoutLastBreak, stmts, ih]
    · exact hOther
    · exact hOther

/-- A case is written as the statements without the `break` at their end. -/
theorem caseBlock_eq (sc : Scope) (ss : List Stmt) :
    caseBlock sc ss = block sc (Plan.withoutLastBreak ss) := by
  cases ss with
  | nil => rw [caseBlock, Plan.withoutLastBreak, block]
  | cons s ss =>
    by_cases hBreak : s = .breakLoop ∧ ss = []
    · rw [hBreak.1, hBreak.2, caseBlock, Plan.withoutLastBreak, block]
    · rw [caseBlock, Plan.withoutLastBreak, block, caseStmts_eq]
      · exact fun hs hss => hBreak ⟨hs, hss⟩
      · exact fun hs hss => hBreak ⟨hs, hss⟩

def caseInside (sc : Scope) (body : List Stmt) : Emit Unit := do
  caseBlock sc body
  only (Plan.passesOn (Plan.withoutLastBreak body)) (line "break;")

theorem leaving_caseInside (sc : Scope) (body : List Stmt) (n : Nat) :
    Leaving (caseInside sc body n).lines := by
  unfold caseInside
  rw [caseBlock_eq]
  generalize Plan.withoutLastBreak body = ss
  cases hPasses : Plan.passesOn ss with
  | true => exact (leaving_line .breaking).after _
  | false =>
    cases ss with
    | nil => cases hPasses
    | cons s ss =>
      have hBlock : block sc (s :: ss) = stmts sc (s :: ss) := by rw [block, stmts]
      rw [hBlock]
      simpa [only] using leaving_stmts sc hPasses n

theorem caseLines_cons (sc : Scope) (value : Expr) (body : List Stmt) (cs : List SwitchCase)
    (label : String) (labels : List String) (n : Nat) :
    (caseLines sc (⟨value, body⟩ :: cs) (label :: labels) n).lines =
      .code 0 s!"case {label}: \x7b" :: (nested (caseInside sc body n).lines ++
        .code 0 "\x7d" :: (caseLines sc cs labels (caseInside sc body n).next).lines) := by
  rw [caseLines]
  unfold caseInside
  cases Plan.passesOn (Plan.withoutLastBreak body) <;>
    simp [line, nest, only, nested, Line.deeper]

/-! ## Blocks of a switch -/

/-- A block of a case, by its header. -/
def isCase (b : Block) : Bool := "case ".toList.isPrefixOf b.header.toList

/-- The blocks of the cases of a switch, as they stand in its lines. -/
def caseBlocks (ls : List Line) : List Block := (readBlocks 1 (lastInside 0 ls)).filter isCase

/-- The last line inside of a block at depth 1 stands directly in the block and leaves it. -/
def EndsByLeaving (b : Block) : Prop :=
  ∃ before text, b.inside = before ++ [Line.code 2 text] ∧ Leaves text

theorem isCase_header (label : String) (inside : List Line) :
    isCase ⟨s!"case {label}: \x7b", inside⟩ = true := by
  rw [isCase, List.isPrefixOf_iff_prefix]
  simp [toString, String.toList_append]

theorem endsByLeaving_of_leaving (header : String) {ls : List Line} (h : Leaving ls) :
    EndsByLeaving ⟨header, nested (nested ls)⟩ := by
  obtain ⟨before, text, rfl, hText⟩ := h
  exact ⟨nested (nested before), text, by simp [nested, Line.deeper], hText⟩

theorem readBlocks_caseLines (sc : Scope) {cs : List SwitchCase} {labels : List String}
    (hLength : labels.length = cs.length) (n : Nat) (rest : List Line) :
    ∃ bs, readBlocks 1 (nested (caseLines sc cs labels n).lines ++ rest) =
        bs ++ readBlocks 1 rest ∧
      bs.length = cs.length ∧ ∀ b ∈ bs, isCase b = true ∧ EndsByLeaving b := by
  induction cs generalizing labels n with
  | nil =>
    obtain rfl := List.length_eq_zero_iff.mp hLength
    refine ⟨[], ?_, rfl, by simp⟩
    rw [caseLines]
    · rfl
    · simp
  | cons c cs ih =>
    obtain ⟨value, body⟩ := c
    obtain ⟨label, labels, rfl⟩ := List.exists_cons_of_length_eq_add_one hLength
    obtain ⟨bs, hBlocks, hCount, hEach⟩ := ih (Nat.succ.inj hLength) (caseInside sc body n).next
    have hCase := isCase_header label (nested (nested (caseInside sc body n).lines))
    -- a header is no closing brace
    have hHeader : s!"case {label}: \x7b" ≠ "\x7d" := by
      intro hSame
      have hOther : "case ".toList.isPrefixOf "\x7d".toList = false := by decide
      rw [isCase, hSame] at hCase
      exact Bool.false_ne_true (hOther.symm.trans hCase)
    refine ⟨⟨s!"case {label}: \x7b", nested (nested (caseInside sc body n).lines)⟩ :: bs, ?_,
      congrArg (· + 1) hCount, ?_⟩
    · have hRead := readBlocks_block hHeader (nested (nested (caseInside sc body n).lines))
        (fun l hl => Source.isBelow_of_mem_nested_nested hl)
        (nested (caseLines sc cs labels (caseInside sc body n).next).lines ++ rest)
      rw [hBlocks] at hRead
      rw [caseLines_cons, List.cons_append, ← hRead]
      simp [nested, Line.deeper]
    · refine List.forall_mem_cons.mpr ⟨⟨hCase, ?_⟩, hEach⟩
      exact endsByLeaving_of_leaving _ (leaving_caseInside sc body n)

theorem length_caseLabels (cs : List SwitchCase) (n : Nat) :
    (caseLabels cs n).value.length = cs.length := by
  induction cs generalizing n with
  | nil => rw [caseLabels]; rfl
  | cons c cs ih =>
    obtain ⟨value, body⟩ := c
    rw [caseLabels]
    exact congrArg (· + 1) (ih _)

/-- The lines of the block behind the cases, which is there if it has statements. -/
def otherwiseLines (sc : Scope) (otherwise : List Stmt) : Emit Unit :=
  only (!otherwise.isEmpty) (braces "default:" (block sc otherwise) "")

theorem readBlocks_otherwise (sc : Scope) (otherwise : List Stmt) (n : Nat) :
    (readBlocks 1 (nested (otherwiseLines sc otherwise n).lines)).filter isCase = [] := by
  cases otherwise with
  | nil => rfl
  | cons s ss =>
    have hHeader : "default: \x7b" ≠ "\x7d" := by decide
    have hOther : "case ".toList.isPrefixOf "default: \x7b".toList = false := by decide
    have hRead := readBlocks_block hHeader (nested (nested (block sc (s :: ss) n).lines))
      (fun l hl => Source.isBelow_of_mem_nested_nested hl) []
    have hLines : nested (otherwiseLines sc (s :: ss) n).lines =
        .code 1 "default: \x7b" :: (nested (nested (block sc (s :: ss) n).lines) ++
          [Line.code 1 "\x7d"]) := by
      simp [otherwiseLines, only, braces, Source.Emit.enclosed, line, nest, nested, Line.deeper]
    rw [hLines, hRead, List.filter_cons, isCase, hOther]
    rfl

theorem lines_switch (sc : Scope) (value : Expr) (cases : List SwitchCase) (otherwise : List Stmt)
    (n : Nat) : ∃ ahead header labels k j, labels.length = cases.length ∧
      (stmt sc (.switch value cases otherwise) n).lines = ahead ++ Line.code 0 header ::
        (nested ((caseLines sc cases labels k).lines ++ (otherwiseLines sc otherwise j).lines) ++
          [Line.code 0 "\x7d"]) := by
  let labels := caseLabels cases (expr true value n).next
  refine ⟨(expr true value n).lines ++ labels.lines, s!"switch ({(expr true value n).value}) \x7b",
    labels.value, labels.next, (caseLines sc cases labels.value labels.next).next,
    length_caseLabels cases _, ?_⟩
  rw [stmt_switch]
  cases otherwise <;> simp [labels, otherwiseLines, only, line, nest, nested]

/-- Every case of a switch has a block in the lines of the switch, and the last line inside of that
block leaves it: control never passes from one case into the next. -/
theorem case_blocks_leave (sc : Scope) (value : Expr) (cases : List SwitchCase)
    (otherwise : List Stmt) (n : Nat) :
    (caseBlocks (stmt sc (.switch value cases otherwise) n).lines).length = cases.length ∧
      ∀ b ∈ caseBlocks (stmt sc (.switch value cases otherwise) n).lines, EndsByLeaving b := by
  obtain ⟨ahead, header, labels, k, j, hLength, hLines⟩ := lines_switch sc value cases otherwise n
  obtain ⟨bs, hRead, hCount, hEach⟩ := readBlocks_caseLines sc hLength k
    (nested (otherwiseLines sc otherwise j).lines)
  have hBlocks : caseBlocks (stmt sc (.switch value cases otherwise) n).lines = bs := by
    rw [caseBlocks, hLines, Source.lastInside_eq ahead fun l hl => Source.isBelow_of_mem_nested hl,
      nested, List.map_append]
    have hCases : bs.filter isCase = bs := List.filter_eq_self.mpr fun b hb => (hEach b hb).1
    calc (readBlocks 1 (nested (caseLines sc cases labels k).lines ++
            nested (otherwiseLines sc otherwise j).lines)).filter isCase
        = bs.filter isCase ++
            (readBlocks 1 (nested (otherwiseLines sc otherwise j).lines)).filter isCase := by
          rw [hRead, List.filter_append]
      _ = bs := by rw [readBlocks_otherwise, hCases, List.append_nil]
  rw [hBlocks]
  exact ⟨hCount, fun b hb => (hEach b hb).2⟩

/-- Cases without statements, with two breaks, with a return that a stream writes as two lines, and
with a return that is not the end. -/
def sorting : List SwitchCase :=
  [⟨.string "new", []⟩, ⟨.string "old", [.breakLoop, .breakLoop]⟩, ⟨.int 3, [.ret (.var "x")]⟩,
    ⟨.int 4, [.cond (.var "x") [.ret (.var "x")] []]⟩]

theorem case_blocks_leave_sorting :
    let blocks := caseBlocks
      (stmt ⟨.rpc true, []⟩ (.switch (.var "kind") sorting [.continueLoop]) 0).lines
    (blocks.map fun b => (b.header, b.inside.getLast?)) =
      [("case 'new': \x7b", some (.code 2 "break;")), ("case 'old': \x7b", some (.code 2 "break;")),
        ("case 3: \x7b", some (.code 2 "return call.end();")),
        ("case 4: \x7b", some (.code 2 "break;"))] ∧
      blocks.length = 4 ∧ ∀ b ∈ blocks, EndsByLeaving b :=
  ⟨by decide +kernel, case_blocks_leave _ _ sorting _ 0⟩

end ServiceCompiler.TypeScript
