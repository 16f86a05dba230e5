import ServiceCompiler.Proofs.Source.Emission
import ServiceCompiler.Proofs.Text.Edges
import ServiceCompiler.Source.Section

/-! # Lines under headers

Where indentation is meaning, a line that ends in a colon has to be followed by a line one level
deeper. Lines are built up so that this holds wherever they are written: into a buffer at any depth,
behind any lines. -/

namespace ServiceCompiler.Source

open Text (Edged opens)

/-- A line of a buffer: its depth, and its text behind the indentation. -/
structure Row where
  depth : Nat
  text : String
  deriving DecidableEq, Repr

def Row.render (unit : String) (r : Row) : String := Line.render unit (.code r.depth r.text)

namespace Buffer

/-- Puts rows behind the lines that are there. -/
def put (b : Buffer) (rows : List Row) : Buffer :=
  { b with lines := b.lines ++ rows.map (Row.render b.unit) }

/-- Writes a line at its depth below the depth of the buffer. -/
def add (b : Buffer) : Line → Buffer
  | .code depth text => dedent^[depth] ((indent^[depth] b).line text)
  | .gap => b.blank

def write (b : Buffer) (ls : List Line) : Buffer := ls.foldl add b

variable (b : Buffer)

theorem iterate_indent (k : Nat) : indent^[k] b = { b with depth := b.depth + k } := by
  induction k with
  | zero => rfl
  | succ k ih => rw [Function.iterate_succ_apply', ih, indent, Nat.add_assoc]

theorem iterate_dedent (k : Nat) : dedent^[k] b = { b with depth := b.depth - k } := by
  induction k with
  | zero => rfl
  | succ k ih => rw [Function.iterate_succ_apply', ih, dedent, Nat.sub_sub]

theorem add_code (k : Nat) (text : String) :
    b.add (.code k text) = b.put [⟨b.depth + k, text⟩] := by
  rw [add, iterate_indent, iterate_dedent, line, Nat.add_sub_cancel]
  rfl

theorem indent_blank : b.blank.indent = b.indent.blank := by
  cases hLast : b.lines.getLast? with
  | none => simp only [blank, indent, hLast]
  | some last =>
    simp only [blank, indent, hLast]
    split <;> rfl

theorem indent_add (l : Line) : (b.add l.deeper).indent = b.indent.add l := by
  cases l with
  | gap => exact b.indent_blank
  | code k text =>
    rw [Line.deeper, add_code, add_code, indent, indent, Nat.add_right_comm b.depth 1 k]
    rfl

theorem put_put (rows more : List Row) : (b.put rows).put more = b.put (rows ++ more) := by
  simp [put]

@[simp] theorem write_nil : b.write [] = b := rfl

@[simp] theorem write_cons (l : Line) (ls : List Line) : b.write (l :: ls) = (b.add l).write ls :=
  rfl

theorem write_append (ls ms : List Line) : b.write (ls ++ ms) = (b.write ls).write ms :=
  List.foldl_append

/-- Lines one level deeper are what is written between indenting and dedenting. -/
theorem write_nested (ls : List Line) : b.write (nested ls) = (b.indent.write ls).dedent := by
  induction ls generalizing b with
  | nil => rfl
  | cons l ls ih =>
    change (b.add l.deeper).write (nested ls) = _
    rw [ih, indent_add]
    rfl

theorem write_iterate_nested (k : Nat) (ls : List Line) :
    b.write (nested^[k] ls) = dedent^[k] ((indent^[k] b).write ls) := by
  induction k generalizing b with
  | zero => rfl
  | succ k ih =>
    rw [Function.iterate_succ_apply', write_nested, ih, Function.iterate_succ_apply',
      Function.iterate_succ_apply]

/-- Whether the last line is one that a gap can stand behind. -/
def isOpen : Bool := b.lines.getLast?.any fun last => !last.isEmpty

theorem isOpen_add_code (k : Nat) (text : String) :
    (b.add (.code k text)).isOpen = !text.isEmpty := by
  rw [add_code, isOpen, put, List.map_singleton, List.getLast?_append, List.getLast?_singleton]
  cases hText : text.isEmpty <;> simp_all [Row.render, Line.render]

theorem blank_eq : b.blank = if b.isOpen then { b with lines := b.lines ++ [""] } else b := by
  unfold blank isOpen
  cases b.lines.getLast? with
  | none => rfl
  | some last => cases hLast : last.isEmpty <;> simp [hLast]

theorem write_settings (ls : List Line) :
    (b.write ls).unit = b.unit ∧ (b.write ls).depth = b.depth := by
  induction ls generalizing b with
  | nil => exact ⟨rfl, rfl⟩
  | cons l ls ih =>
    have hAdd : (b.add l).unit = b.unit ∧ (b.add l).depth = b.depth := by
      cases l with
      | code k text => exact add_code b k text ▸ ⟨rfl, rfl⟩
      | gap =>
        rw [add, blank_eq]
        split <;> exact ⟨rfl, rfl⟩
    rw [write_cons, (ih _).1, (ih _).2]
    exact hAdd

theorem lines_write (hDepth : b.depth = 0) (ls : List Line) :
    (b.write ls).lines = b.lines ++ (closeGaps b.isOpen ls).map (Line.render b.unit) := by
  induction ls generalizing b with
  | nil => simp [closeGaps]
  | cons l ls ih =>
    rw [write_cons]
    cases l with
    | code k text =>
      rw [ih _ (by rw [add_code]; exact hDepth), isOpen_add_code, add_code, hDepth, Nat.zero_add]
      simp [closeGaps, put, Row.render]
    | gap =>
      rw [add, ih _ (by rw [blank_eq]; split <;> exact hDepth), blank_eq]
      cases hOpen : b.isOpen with
      | true =>
        have hClosed : "".isEmpty = true := rfl
        simp [closeGaps, isOpen, Line.render, hClosed]
      | false => simp [closeGaps, hOpen]

/-- A section of a program has the lines that are written into an empty buffer. -/
theorem sectionTexts_eq_write (unit : String) (ls : List Line) :
    sectionTexts unit ls = ((empty unit).write ls).lines :=
  ((empty unit).lines_write rfl ls).symm

end Buffer

/-! ## Rows of a buffer -/

/-- A row that ends in a colon has the next row one level under it. -/
def Followed (rows : List Row) : Prop :=
  ∀ r rest, r :: rest <:+ rows → r.text.toList.getLast? = some ':' →
    ∃ next ∈ rest.head?, next.depth = r.depth + 1

/-- Rows from a depth on: none is less deep or empty or has blanks beyond its indentation, and the
first is not deeper. -/
structure Stepped (depth : Nat) (rows : List Row) : Prop where
  least : ∀ r ∈ rows, depth ≤ r.depth ∧ opens r.text.toList = true
  first : ∀ r ∈ rows.head?, r.depth = depth
  followed : Followed rows

variable {depth : Nat} {text : String} {rows more : List Row}

theorem followed_nil : Followed [] := by simp [Followed]

theorem Followed.cons {r : Row} (h : Followed rows)
    (hFirst : r.text.toList.getLast? = some ':' → ∃ next ∈ rows.head?, next.depth = r.depth + 1) :
    Followed (r :: rows) := by
  intro s rest hSuffix hColon
  rcases List.suffix_cons_iff.mp hSuffix with hWhole | hLater
  · obtain ⟨rfl, rfl⟩ := List.cons.inj hWhole
    exact hFirst hColon
  · exact h s rest hLater hColon

theorem Followed.append (h : Followed rows) (hMore : Followed more) : Followed (rows ++ more) := by
  induction rows with
  | nil => exact hMore
  | cons r rows ih =>
    have hRest : Followed rows := fun s rest hSuffix =>
      h s rest (hSuffix.trans (List.suffix_cons r rows))
    refine (ih hRest).cons fun hColon => ?_
    obtain ⟨next, hNext, hDepth⟩ := h r rows List.suffix_rfl hColon
    exact ⟨next, by simp [List.head?_append, Option.mem_def.mp hNext], hDepth⟩

theorem stepped_nil : Stepped depth [] := ⟨by simp, by simp, followed_nil⟩

theorem Stepped.append (h : Stepped depth rows) (hMore : Stepped depth more) :
    Stepped depth (rows ++ more) := by
  refine ⟨List.forall_mem_append.mpr ⟨h.least, hMore.least⟩, ?_, h.followed.append hMore.followed⟩
  cases rows with
  | nil => exact hMore.first
  | cons r rows => exact h.first

theorem stepped_line (hText : Edged false text) : Stepped depth [⟨depth, text⟩] := by
  refine ⟨by simp [hText.opens], by simp, followed_nil.cons fun hColon => ?_⟩
  exact absurd hColon (Text.not_closes_true hText.closes)

theorem stepped_head (hText : Edged true text) (hBody : Stepped (depth + 1) rows)
    (hSome : rows ≠ []) : Stepped depth (⟨depth, text⟩ :: rows) := by
  refine ⟨List.forall_mem_cons.mpr ⟨⟨Nat.le_refl _, hText.opens⟩, fun r hr => ?_⟩, by simp, ?_⟩
  · exact ⟨Nat.le_of_succ_le (hBody.least r hr).1, (hBody.least r hr).2⟩
  · obtain ⟨r, rest, rfl⟩ := List.exists_cons_of_ne_nil hSome
    exact hBody.followed.cons fun _ => ⟨r, rfl, hBody.first r rfl⟩

/-! ## Suites -/

/-- Lines of which each is complete without lines under it or has lines under it. -/
inductive Blocked : List Line → Prop
  | nil : Blocked []
  | line {text : String} {rest : List Line} (hText : Edged false text) (hRest : Blocked rest) :
      Blocked (.code 0 text :: rest)
  | head {text : String} {body rest : List Line} (hText : Edged true text) (hBody : Blocked body)
      (hSome : body ≠ []) (hRest : Blocked rest) : Blocked (.code 0 text :: (nested body ++ rest))

theorem Blocked.append {ls ms : List Line} (h : Blocked ls) (hMore : Blocked ms) :
    Blocked (ls ++ ms) := by
  induction h with
  | nil => exact hMore
  | line hText _ ih => exact .line hText ih
  | head hText hBody hSome _ _ ih =>
    rw [List.cons_append, List.append_assoc]
    exact .head hText hBody hSome ih

/-- Written into a buffer, the lines stand behind those that are there, from its depth on. -/
theorem Blocked.write {ls : List Line} (h : Blocked ls) (b : Buffer) :
    ∃ rows, rows.length = ls.length ∧ Stepped b.depth rows ∧ b.write ls = b.put rows := by
  induction h generalizing b with
  | nil => exact ⟨[], rfl, stepped_nil, by simp [Buffer.put]⟩
  | @line text rest hText _ ih =>
    obtain ⟨rows, hLength, hRows, hWrite⟩ := ih (b.put [⟨b.depth, text⟩])
    refine ⟨⟨b.depth, text⟩ :: rows, by simp [hLength], (stepped_line hText).append hRows, ?_⟩
    rw [Buffer.write_cons, Buffer.add_code, Nat.add_zero, hWrite, Buffer.put_put]
    rfl
  | @head text body rest hText _ hSome _ ihBody ihRest =>
    -- the header, the body between indenting and dedenting, and what follows
    obtain ⟨inner, hInner, hBody, hWriteBody⟩ := ihBody (b.put [⟨b.depth, text⟩]).indent
    obtain ⟨rows, hLength, hRows, hWriteRest⟩ := ihRest (b.put (⟨b.depth, text⟩ :: inner))
    have hUnder : inner ≠ [] := by
      rw [← List.length_pos_iff, hInner, List.length_pos_iff]
      exact hSome
    refine ⟨⟨b.depth, text⟩ :: inner ++ rows, by simp [hInner, hLength, nested],
      (stepped_head hText hBody hUnder).append hRows, ?_⟩
    calc b.write (.code 0 text :: (nested body ++ rest))
        = ((b.put [⟨b.depth, text⟩]).indent.write body).dedent.write rest := by
          rw [Buffer.write_cons, Buffer.add_code, Buffer.write_append, Buffer.write_nested]
          rfl
      _ = ((b.put [⟨b.depth, text⟩]).put inner).write rest := by
          rw [hWriteBody]
          rfl
      _ = b.put (⟨b.depth, text⟩ :: inner ++ rows) := by
          rw [Buffer.put_put, List.singleton_append, hWriteRest, Buffer.put_put]

/-- In a section of a program, the lines stand so at the depth at which they are nested, behind what
the section has written before them and in front of whatever follows. -/
theorem Blocked.sectionTexts {ls : List Line} (h : Blocked ls) (unit : String) (depth : Nat)
    (front back : List Line) :
    ∃ rows after, rows.length = ls.length ∧ Stepped depth rows ∧
      sectionTexts unit (front ++ nested^[depth] ls ++ back) =
        sectionTexts unit front ++ rows.map (Row.render unit) ++ after := by
  -- the buffer behind the front part, where the lines are written
  let b := (Buffer.empty unit).write front
  obtain ⟨hUnit, hDepth⟩ : b.unit = unit ∧ b.depth = 0 := (Buffer.empty unit).write_settings front
  obtain ⟨rows, hLength, hRows, hWrite⟩ := h.write (Buffer.indent^[depth] b)
  rw [Buffer.iterate_indent, hDepth, Nat.zero_add] at hRows
  have hLines : (b.write (nested^[depth] ls)).lines = b.lines ++ rows.map (Row.render unit) := by
    rw [Buffer.write_iterate_nested, hWrite, Buffer.iterate_dedent, Buffer.iterate_indent, ← hUnit]
    rfl
  have hBack := (b.write (nested^[depth] ls)).lines_write ((b.write_settings _).2.trans hDepth) back
  rw [hLines] at hBack
  rw [Buffer.sectionTexts_eq_write, Buffer.sectionTexts_eq_write, Buffer.write_append,
    Buffer.write_append]
  exact ⟨rows, _, hLength, hRows, hBack⟩

/-- Lines that are built up so, at least as many as given. -/
def Suite (k : Nat) (ls : List Line) : Prop := Blocked ls ∧ k ≤ ls.length

theorem additive_suite : Additive Suite where
  nil := ⟨.nil, Nat.le_refl 0⟩
  append hFirst hSecond := by
    refine ⟨hFirst.1.append hSecond.1, ?_⟩
    rw [List.length_append]
    exact Nat.add_le_add hFirst.2 hSecond.2

namespace Emit

variable {α : Type} {m : Emit α} {V : α → Prop} {text : String} {k : Nat}

theorem Yields.uncounted (h : m.Yields V (Suite k)) : m.Yields V (Suite 0) :=
  fun n => ⟨(h n).1, (h n).2.1, Nat.zero_le _⟩

theorem yields_suite_line (hText : Edged false text) :
    (line text).Yields (fun _ => True) (Suite 1) :=
  fun _ => ⟨trivial, .line hText .nil, Nat.le_refl 1⟩

theorem Yields.suite_head (hBody : m.Yields V (Suite 1)) (hText : Edged true text) :
    (head text m).Yields V (Suite 1) := by
  intro n
  obtain ⟨hValue, hBlocked, hLength⟩ := hBody n
  have hSome : (m n).lines ≠ [] := List.length_pos_iff.mp hLength
  have hLines := Blocked.head hText hBlocked hSome .nil
  rw [List.append_nil] at hLines
  exact ⟨hValue, hLines, Nat.le_add_left 1 _⟩

end Emit

end ServiceCompiler.Source
