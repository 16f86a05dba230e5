import Mathlib.Data.List.Basic
import ServiceCompiler.Proofs.Source.Emission
import ServiceCompiler.Proofs.Text.Words
import ServiceCompiler.Source.Section

/-! # Lines in a program

What a section writes stands in the program: the buffer of a program only grows, and at the end no
more than empty lines are cut off. -/

namespace ServiceCompiler.Text

theorem joinChars_append_sep (sep : List Char) {pieces : List (List Char)} (h : pieces ≠ []) :
    joinChars sep pieces ++ sep = pieces.flatMap (· ++ sep) := by
  obtain ⟨piece, pieces, rfl⟩ := List.exists_cons_of_ne_nil h
  rw [joinChars_cons, List.flatMap_cons, List.append_assoc, List.append_assoc]
  refine congrArg (piece ++ ·) ?_
  induction pieces with
  | nil => simp
  | cons next more ih => simp [ih]

end ServiceCompiler.Text

namespace ServiceCompiler.Source

/-- The text stands on lines of its own in a program, in front of the rest. -/
def Stands (program text rest : String) : Prop :=
  ∃ before, program = before ++ text ++ "\n" ++ rest ∧
    (before = "" ∨ ∃ front, before = front ++ "\n")

namespace Buffer

structure Grows (b c : Buffer) : Prop where
  unit : c.unit = b.unit
  lines : b.lines <+: c.lines

variable {b c d : Buffer}

theorem Grows.refl (b : Buffer) : b.Grows b := ⟨rfl, List.prefix_refl _⟩

theorem Grows.trans (hFirst : b.Grows c) (hSecond : c.Grows d) : b.Grows d :=
  ⟨hSecond.unit.trans hFirst.unit, hFirst.lines.trans hSecond.lines⟩

theorem grows_line (b : Buffer) (text : String) : b.Grows (b.line text) :=
  ⟨rfl, List.prefix_append _ _⟩

theorem grows_append (b : Buffer) (ls : List String) : b.Grows (b.append ls) :=
  ⟨rfl, List.prefix_append _ _⟩

theorem grows_blank (b : Buffer) : b.Grows b.blank := by
  rw [blank]
  split
  · split
    · exact .refl b
    · exact ⟨rfl, List.prefix_append _ _⟩
  · exact .refl b

theorem stands_of_mem {l : String} (hMem : l ∈ b.lines) (hSome : l ≠ "") :
    ∃ rest, Stands b.finish l rest := by
  -- only empty lines are cut off at the end
  have hKept : l ∈ (b.lines.reverse.dropWhile String.isEmpty).reverse := by
    rw [List.mem_reverse]
    rw [← List.mem_reverse, ← b.lines.reverse.takeWhile_append_dropWhile (p := String.isEmpty),
      List.mem_append] at hMem
    refine hMem.resolve_left fun hCut => hSome ?_
    exact String.isEmpty_iff.mp (List.mem_takeWhile_imp hCut)
  obtain ⟨before, after, hLines⟩ := List.append_of_mem hKept
  let ended (ls : List String) : String := .ofList ((ls.map String.toList).flatMap (· ++ ['\n']))
  refine ⟨ended after, ended before, ?_, ?_⟩
  · have hPieces : (before ++ l :: after).map String.toList ≠ [] := by simp
    have hChars := Text.joinChars_append_sep ['\n'] hPieces
    rw [finish, hLines, Text.join, ← String.toList_inj]
    simpa [ended] using hChars
  · rcases List.eq_nil_or_concat' before with rfl | ⟨front, last, rfl⟩
    · exact .inl rfl
    · refine .inr ⟨ended front ++ last, ?_⟩
      rw [← String.toList_inj]
      simp [ended]

end Buffer

/-! ## Sections -/

theorem mem_closeGaps {depth : Nat} {text : String} {ls : List Line}
    (h : Line.code depth text ∈ ls) (opened : Bool) :
    Line.code depth text ∈ closeGaps opened ls := by
  induction ls generalizing opened with
  | nil => cases h
  | cons l ls ih =>
    rcases List.mem_cons.mp h with rfl | hLater
    · exact List.mem_cons_self
    · cases l with
      | code d t => exact List.mem_cons_of_mem _ (ih hLater _)
      | gap =>
        rw [closeGaps]
        split
        · exact List.mem_cons_of_mem _ (ih hLater _)
        · exact ih hLater _

variable {unit : String} {banner : Section → Buffer → Buffer}

theorem grows_addSection (hBanner : ∀ (s : Section) (b : Buffer), b.Grows (banner s b))
    (b : Buffer) (s : Section) (ls : List Line) : b.Grows (addSection banner b s ls) := by
  rw [addSection]
  split
  · exact .refl b
  · split
    · exact Buffer.grows_append _ _
    · exact (hBanner s b).trans (Buffer.grows_append _ _)

theorem mem_addSection (b : Buffer) (s : Section) {ls : List Line} {depth : Nat} {text : String}
    (h : .code depth text ∈ ls) :
    (Line.code depth text).render b.unit ∈ (addSection banner b s ls).lines := by
  have hTexts : (Line.code depth text).render b.unit ∈ sectionTexts b.unit ls :=
    List.mem_map_of_mem (mem_closeGaps h false)
  rw [addSection]
  split
  · rename_i hNone
    rw [hNone] at hTexts
    cases hTexts
  · exact List.mem_append_right _ hTexts

theorem grows_foldl_addSection (hBanner : ∀ (s : Section) (b : Buffer), b.Grows (banner s b))
    (sections : List (Section × List Line)) (b : Buffer) :
    b.Grows (sections.foldl (fun b s => addSection banner b s.1 s.2) b) := by
  induction sections generalizing b with
  | nil => exact .refl b
  | cons s sections ih => exact (grows_addSection hBanner b s.1 s.2).trans (ih _)

theorem mem_foldl_addSection (hBanner : ∀ (s : Section) (b : Buffer), b.Grows (banner s b))
    {sections : List (Section × List Line)} {s : Section} {ls : List Line}
    (hSection : (s, ls) ∈ sections) {depth : Nat} {text : String}
    (h : Line.code depth text ∈ ls) (b : Buffer) :
    (Line.code depth text).render b.unit ∈
      (sections.foldl (fun b s => addSection banner b s.1 s.2) b).lines := by
  induction sections generalizing b with
  | nil => cases hSection
  | cons first sections ih =>
    rcases List.mem_cons.mp hSection with rfl | hLater
    · exact (grows_foldl_addSection hBanner sections _).lines.subset (mem_addSection b s h)
    · rw [← (grows_addSection hBanner b first.1 first.2).unit]
      exact ih hLater _

theorem exists_value_mem_collect {α β : Type} {xs : List α} {x : α} (hx : x ∈ xs)
    (f : α → Emit β) (n : Nat) : ∃ k, (f x k).value ∈ (Emit.collect xs f n).value := by
  induction xs generalizing n with
  | nil => cases hx
  | cons y ys ih =>
    rcases List.mem_cons.mp hx with rfl | hLater
    · exact ⟨n, List.mem_cons_self⟩
    · obtain ⟨k, hMem⟩ := ih hLater (f y n).next
      exact ⟨k, List.mem_cons_of_mem _ hMem⟩

/-- A line that a section writes stands in the program, behind its indentation. -/
theorem stands_of_writes (hBanner : ∀ (s : Section) (b : Buffer), b.Grows (banner s b))
    {emit : Section → Emit Unit} (s : Section) {depth : Nat} {text : String}
    (h : (emit s).Writes (.code depth text)) (hSome : text ≠ "") :
    ∃ rest, Stands (emitProgram unit banner emit)
      (String.join (List.replicate depth unit) ++ text) rest := by
  have hText : ¬ text.isEmpty = true := fun hEmpty => hSome (String.isEmpty_iff.mp hEmpty)
  have hRender : (Line.code depth text).render unit =
      String.join (List.replicate depth unit) ++ text := by
    rw [Line.render, if_neg hText]
  have hAll : s ∈ Section.all := by
    cases s <;> decide
  obtain ⟨k, hSection⟩ := exists_value_mem_collect hAll
    (fun s => do let r ← Emit.capture (emit s); return (s, r.2)) 0
  rw [← hRender]
  refine Buffer.stands_of_mem (mem_foldl_addSection hBanner hSection (h k) (.empty unit)) ?_
  intro hEmpty
  change (Line.code depth text).render unit = "" at hEmpty
  rw [hRender, String.append_eq_empty_iff] at hEmpty
  exact hSome hEmpty.2

end ServiceCompiler.Source
