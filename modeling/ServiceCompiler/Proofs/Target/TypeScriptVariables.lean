import Mathlib.Logic.Function.Iterate
import ServiceCompiler.Proofs.Core.Within
import ServiceCompiler.Proofs.Target.TypeScriptSwitch

/-! # Declarations of TypeScript variables

TypeScript refuses to assign a variable again that was declared by `const`. Main statement: in a
body, a variable that is assigned again is declared by `let`, with one exception. The key of a loop
is declared together with the value, and the keyword is chosen for the value alone. -/

namespace ServiceCompiler.Source.Emit

variable {α β γ : Type} {m : Emit α} {e : Emit β} {f : Emit γ}

/-- The lines of an emission stand in a row among those of another, at some depth. -/
def Placed (m : Emit α) (e : Emit β) : Prop := ∃ depth, (nest^[depth] m).Within e

theorem Placed.refl (m : Emit α) : m.Placed m := ⟨0, .refl m⟩

theorem Placed.within (h : m.Placed e) (hOuter : e.Within f) : m.Placed f := by
  obtain ⟨depth, hWithin⟩ := h
  exact ⟨depth, hWithin.trans hOuter⟩

theorem Placed.deeper (h : m.Placed e) (hOuter : e.nest.Within f) : m.Placed f := by
  obtain ⟨depth, hWithin⟩ := h
  refine ⟨depth + 1, ?_⟩
  rw [Function.iterate_succ_apply']
  exact hWithin.nest.trans hOuter

end ServiceCompiler.Source.Emit

namespace ServiceCompiler.TypeScript

open ServiceCompiler.Core (Expr Stmt SwitchCase Node)
open Plan (BodyContext)
open Source (Emit Line)
open Source.Emit (nest)

variable {sc : Scope} {s t : Stmt} {ss : List Stmt}

/-! ## Where a statement is written -/

theorem within_stmts (sc : Scope) (h : s ∈ ss) : (stmt sc s).Within (stmts sc ss) := by
  induction ss with
  | nil => cases h
  | cons t ss ih =>
    rw [stmts]
    rcases List.mem_cons.mp h with rfl | hRest
    · exact .before (.refl _) _
    · exact .after _ fun _ => ih hRest

theorem block_eq_stmts (sc : Scope) (h : s ∈ ss) : block sc ss = stmts sc ss := by
  cases ss with
  | nil => cases h
  | cons t ss => rw [block, stmts]

theorem within_block (sc : Scope) (h : s ∈ ss) : (stmt sc s).Within (block sc ss) := by
  rw [block_eq_stmts sc h]
  exact within_stmts sc h

theorem within_caseBlock (sc : Scope) (h : s ∈ ss) (hOther : s ≠ .breakLoop) :
    (stmt sc s).Within (caseBlock sc ss) := by
  rw [caseBlock_eq]
  apply within_block
  rcases Plan.withoutLastBreak_cases ss with ⟨-, hSame⟩ | ⟨-, hConcat⟩
  · rwa [hSame]
  · rw [hConcat] at h
    rcases List.mem_append.mp h with hMem | hLast
    · exact hMem
    · exact absurd (List.mem_singleton.mp hLast) hOther

theorem within_caseLines (sc : Scope) {cs : List SwitchCase} {c : SwitchCase} (h : c ∈ cs)
    {labels : List String} (hLength : labels.length = cs.length) :
    (nest (caseBlock sc c.body)).Within (caseLines sc cs labels) := by
  induction cs generalizing labels with
  | nil => cases h
  | cons c' cs ih =>
    obtain ⟨value, body⟩ := c'
    obtain ⟨label, labels, rfl⟩ := List.exists_cons_of_length_eq_add_one hLength
    rw [caseLines]
    apply Source.Emit.Within.after
    intro _
    rcases List.mem_cons.mp h with rfl | hRest
    · exact .before (.refl _) _
    · exact .after _ fun _ => .after _ fun _ => .after _ fun _ => ih hRest (Nat.succ.inj hLength)

theorem within_cond_then (sc : Scope) (condition : Expr) (thenBody elseBody : List Stmt) :
    (nest (block sc thenBody)).Within (stmt sc (.cond condition thenBody elseBody)) := by
  rw [stmt_cond]
  exact .after _ fun _ => .after _ fun _ => .before (.refl _) _

theorem within_cond_else (sc : Scope) (condition : Expr) (thenBody : List Stmt) (s : Stmt)
    (ss : List Stmt) :
    (nest (block sc (s :: ss))).Within (stmt sc (.cond condition thenBody (s :: ss))) := by
  rw [stmt_cond]
  exact .after _ fun _ => .after _ fun _ => .after _ fun _ => .after _ fun _ => .before (.refl _) _

theorem within_switch_cases (sc : Scope) (value : Expr) {cases : List SwitchCase} {c : SwitchCase}
    (h : c ∈ cases) (otherwise : List Stmt) :
    (nest (nest (caseBlock sc c.body))).Within (stmt sc (.switch value cases otherwise)) := by
  rw [stmt_switch]
  refine .after _ fun _ => .behind (V := fun labels => labels.length = cases.length)
    (length_caseLabels cases) fun labels hLength => ?_
  exact .after _ fun _ => .before (within_caseLines sc h hLength).nest _

theorem within_switch_otherwise (sc : Scope) (value : Expr) (cases : List SwitchCase) (s : Stmt)
    (ss : List Stmt) :
    (nest (nest (block sc (s :: ss)))).Within (stmt sc (.switch value cases (s :: ss))) := by
  rw [stmt_switch]
  refine .after _ fun _ => .after _ fun _ => .after _ fun _ => .after _ fun _ => .before ?_ _
  exact .nest (.braces (.refl _) _ _)

-- The induction is over the statements that lie in a statement. A `break` is left out of account
-- since the one at the end of a case is not written.
theorem placed_of_mem_flow (sc : Scope) (hFlow : t ∈ s.flow) (hOther : t ≠ .breakLoop) :
    (stmt sc t).Placed (stmt sc s) := by
  induction s using Node.stmt_induct with
  | step s ih =>
  have hIn {ss : List Stmt} (hPart : ∀ r ∈ ss, Node.stmt r ∈ s.parts) (h : t ∈ Stmt.bodyFlow ss) :
      ∃ r ∈ ss, r ≠ .breakLoop ∧ (stmt sc t).Placed (stmt sc r) := by
    rw [Stmt.bodyFlow_eq] at h
    obtain ⟨r, hr, hInner⟩ := List.mem_flatMap.mp h
    refine ⟨r, hr, ?_, ih r (hPart r hr) hInner⟩
    rintro rfl
    exact hOther (List.mem_singleton.mp hInner)
  have hBlock {ss : List Stmt} (hPart : ∀ r ∈ ss, Node.stmt r ∈ s.parts)
      (h : t ∈ Stmt.bodyFlow ss) : (stmt sc t).Placed (block sc ss) := by
    obtain ⟨r, hr, -, hPlaced⟩ := hIn hPart h
    exact hPlaced.within (within_block sc hr)
  cases s with
  | cond condition thenBody elseBody =>
    rw [Stmt.flow] at hFlow
    rcases List.mem_cons.mp hFlow with rfl | hFlow
    · exact .refl _
    rcases List.mem_append.mp hFlow with hThen | hElse
    · exact (hBlock (fun r hr => by simp [hr]) hThen).deeper (within_cond_then sc _ _ _)
    · cases elseBody with
      | nil => cases hElse
      | cons r rs =>
        exact (hBlock (fun q hq => by simp_all) hElse).deeper (within_cond_else sc _ _ r rs)
  | forEach key value iterable body =>
    rw [Stmt.flow] at hFlow
    rcases List.mem_cons.mp hFlow with rfl | hFlow
    · exact .refl _
    refine (hBlock (fun r hr => by simp [hr]) hFlow).deeper ?_
    rw [stmt]
    exact .after _ fun _ => .braces (.refl _) _ _
  | whileLoop condition body =>
    rw [Stmt.flow] at hFlow
    rcases List.mem_cons.mp hFlow with rfl | hFlow
    · exact .refl _
    refine (hBlock (fun r hr => by simp [hr]) hFlow).deeper ?_
    rw [stmt]
    exact .after _ fun _ => .braces (.refl _) _ _
  | switch value cases otherwise =>
    rw [Stmt.flow] at hFlow
    rcases List.mem_cons.mp hFlow with rfl | hFlow
    · exact .refl _
    rcases List.mem_append.mp hFlow with hCases | hOtherwise
    · rw [Stmt.casesFlow_eq] at hCases
      obtain ⟨c, hc, hBody⟩ := List.mem_flatMap.mp hCases
      -- a case drops its last break, so this statement must not be that one
      obtain ⟨r, hr, hNoBreak, hPlaced⟩ := hIn (fun r hr => Node.stmt_part_of_case hc hr) hBody
      have hCase := hPlaced.within (within_caseBlock sc hr hNoBreak)
      exact (hCase.deeper (.refl _)).deeper (within_switch_cases sc value hc otherwise)
    · cases otherwise with
      | nil => cases hOtherwise
      | cons r rs =>
        have hDefault := hBlock (fun q hq => by simp_all) hOtherwise
        exact (hDefault.deeper (.refl _)).deeper (within_switch_otherwise sc value cases r rs)
  | _ =>
    obtain rfl := List.mem_singleton.mp hFlow
    exact .refl _

/-! ## How a statement declares -/

def declared : Stmt → List String
  | .assign target _ => [target]
  | .forEach key value _ _ => key.toList ++ [value]
  | _ => []

-- The expression that a declared variable takes its values from. Its own lines come first.
def origin : Stmt → Emit String
  | .assign _ value => expr true value
  | .forEach _ _ iterable _ => expr false iterable
  | _ => pure ""

/-- The line that declares the variables of a statement. -/
def declaration (keyword : String) (s : Stmt) (text : String) : String :=
  match s with
  | .assign target _ => s!"{keyword} {target} = {text};"
  | .forEach key value _ _ =>
    match key with
    | some key => s!"for ({keyword} [{key}, {value}] of ({text}).entries())" ++ " \x7b"
    | none => s!"for ({keyword} {value} of {text})" ++ " \x7b"
  | _ => ""

/-- A statement is written with a keyword in front of its variables. -/
def DeclaredBy (keyword : String) (sc : Scope) (s : Stmt) : Prop :=
  ∀ n, (origin s n).lines ++ [Line.code 0 (declaration keyword s (origin s n).value)] <+:
    (stmt sc s n).lines

theorem declaredBy_assign (sc : Scope) (target : String) (value : Expr) :
    DeclaredBy (sc.declare target) sc (.assign target value) := by
  intro n
  rw [stmt]
  exact List.prefix_rfl

theorem declaredBy_forEach (sc : Scope) (key : Option String) (value : String) (iterable : Expr)
    (inner : List Stmt) :
    DeclaredBy (sc.declare value) sc (.forEach key value iterable inner) := by
  intro n
  rw [stmt]
  apply (List.prefix_append_right_inj _).mpr
  cases key with
  | none => exact List.cons_prefix_cons.mpr ⟨rfl, List.nil_prefix⟩
  | some key => exact List.cons_prefix_cons.mpr ⟨rfl, List.nil_prefix⟩

theorem declaration_inj {keyword keyword' text : String} (hDeclared : declared s ≠ [])
    (h : declaration keyword s text = declaration keyword' s text) : keyword = keyword' := by
  unfold declaration at h
  cases s with
  | assign target value =>
    simp only [String.append_left_inj] at h
    exact h
  | forEach key value iterable inner =>
    cases key with
    | none =>
      simp only [String.append_left_inj, String.append_right_inj] at h
      exact h
    | some key =>
      simp only [String.append_left_inj, String.append_right_inj] at h
      exact h
  | _ => exact absurd rfl hDeclared

theorem DeclaredBy.unique {keyword keyword' : String} (hDeclared : declared s ≠ [])
    (h : DeclaredBy keyword sc s) (h' : DeclaredBy keyword' sc s) : keyword = keyword' := by
  obtain ⟨rest, hLines⟩ := h 0
  obtain ⟨rest', hLines'⟩ := h' 0
  have hSame := hLines.trans hLines'.symm
  rw [List.append_assoc, List.append_assoc] at hSame
  obtain ⟨hLine, -⟩ := List.cons.inj (List.append_cancel_left hSame)
  exact declaration_inj hDeclared (Source.Line.code.inj hLine).2

theorem declare_eq_let {ctx : BodyContext} {x : String} :
    (Scope.of ctx ss).declare x = "let" ↔ Stmt.Reassigns ss x := by
  rw [← Plan.mem_reassigned, Scope.declare]
  simp [Scope.of]

theorem declare_eq_const {ctx : BodyContext} {x : String} :
    (Scope.of ctx ss).declare x = "const" ↔ ¬ Stmt.Reassigns ss x := by
  rw [← Plan.mem_reassigned, Scope.declare]
  simp [Scope.of]

theorem declaredBy_iff {ctx : BodyContext} {x : String} (hDeclared : declared s ≠ [])
    (h : DeclaredBy ((Scope.of ctx ss).declare x) (.of ctx ss) s) :
    (DeclaredBy "const" (.of ctx ss) s ↔ ¬ Stmt.Reassigns ss x) ∧
      (DeclaredBy "let" (.of ctx ss) s ↔ Stmt.Reassigns ss x) := by
  have hKeyword (keyword : String) : DeclaredBy keyword (.of ctx ss) s ↔
      (Scope.of ctx ss).declare x = keyword := by
    constructor
    · intro h'
      exact h.unique hDeclared h'
    · rintro rfl
      exact h
  rw [hKeyword, hKeyword, declare_eq_const, declare_eq_let]
  exact ⟨.rfl, .rfl⟩

/-! ## Variables that are assigned again -/

/-- A variable that is assigned again somewhere in a body is declared in the body by `let`, unless
it is the key of a loop whose value is not assigned again. -/
theorem const_of_reassigned_iff (ctx : BodyContext) {ss : List Stmt} {s : Stmt}
    (hFlow : s ∈ Stmt.bodyFlow ss) {x : String} (hDeclared : x ∈ declared s)
    (hAgain : Stmt.Reassigns ss x) :
    (stmt (.of ctx ss) s).Placed (body ctx ss) ∧
      (DeclaredBy "const" (.of ctx ss) s ↔ ∃ value iterable inner,
        s = .forEach (some x) value iterable inner ∧ ¬ Stmt.Reassigns ss value) ∧
      (DeclaredBy "let" (.of ctx ss) s ↔ ¬ ∃ value iterable inner,
        s = .forEach (some x) value iterable inner ∧ ¬ Stmt.Reassigns ss value) := by
  have hSome : declared s ≠ [] := List.ne_nil_of_mem hDeclared
  constructor
  · have hOther : s ≠ .breakLoop := by
      rintro rfl
      cases hDeclared
    rw [Stmt.bodyFlow_eq] at hFlow
    obtain ⟨r, hr, hInner⟩ := List.mem_flatMap.mp hFlow
    exact (placed_of_mem_flow _ hInner hOther).within (within_block _ hr)
  · cases s with
    | assign target value =>
      obtain rfl := List.mem_singleton.mp hDeclared
      obtain ⟨hConst, hLet⟩ := declaredBy_iff hSome (declaredBy_assign (.of ctx ss) x value)
      rw [hConst, hLet]
      simp [hAgain]
    | forEach key value iterable inner =>
      obtain ⟨hConst, hLet⟩ :=
        declaredBy_iff hSome (declaredBy_forEach (.of ctx ss) key value iterable inner)
      rw [hConst, hLet]
      rcases List.mem_append.mp hDeclared with hKey | hValue
      · obtain rfl := Option.mem_toList.mp hKey
        simp
      · obtain rfl := List.mem_singleton.mp hValue
        simp [hAgain]
    | _ => cases hDeclared

/-- A sum over a list that starts anew at every other position. -/
def partialSums : List Stmt :=
  [.assign "total" (.int 0),
    .forEach (some "i") "x" (.var "items")
      [.cond (.binary .eq (.binary .mod (.var "i") (.int 2)) (.int 0))
        [.reassign "total" (.int 0)] [],
        .reassign "total" (.binary .add (.var "total") (.var "x"))],
    .ret (.var "total")]

theorem const_of_reassigned_iff_partialSums :
    Stmt.Reassigns partialSums "total" ∧
      (stmt (.of .function partialSums) (.assign "total" (.int 0))).Placed
        (body .function partialSums) ∧
      DeclaredBy "let" (.of .function partialSums) (.assign "total" (.int 0)) := by
  have hAgain : Stmt.Reassigns partialSums "total" :=
    ⟨.int 0, by simp [partialSums, Stmt.bodyFlow, Stmt.flow]⟩
  have hFlow : Stmt.assign "total" (.int 0) ∈ Stmt.bodyFlow partialSums := by
    simp [partialSums, Stmt.bodyFlow, Stmt.flow]
  obtain ⟨hPlaced, -, hLet⟩ :=
    const_of_reassigned_iff .function hFlow List.mem_cons_self hAgain
  refine ⟨hAgain, hPlaced, hLet.mpr ?_⟩
  rintro ⟨value, iterable, inner, hSame, -⟩
  cases hSame

/-- The key of a loop that the loop sets back. -/
def rewind : List Stmt := [.forEach (some "i") "x" (.var "items") [.reassign "i" (.int 0)]]

theorem const_of_rewind :
    Stmt.Reassigns rewind "i" ∧
      (body .function rewind 0).lines =
        [.code 0 "for (const [i, x] of (items).entries()) \x7b", .code 1 "i = 0;",
          .code 0 "\x7d"] :=
  ⟨⟨.int 0, by simp [rewind, Stmt.bodyFlow, Stmt.flow]⟩, by decide +kernel⟩

end ServiceCompiler.TypeScript
