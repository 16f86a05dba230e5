import ServiceCompiler.Proofs.Text.Token

/-! # Written types

`Form` is the shape of a written type: names and groups with their brackets, members with bars
between them, and functions. A text that begins with a written type and stops behind it has one
form. -/

namespace ServiceCompiler.TypeScript.Grouping

open Text (Name Ends ends_cons isIdentifierPart)

mutual

/-- A written type: a name or a group with its brackets and the members behind it, or a function,
behind which no member can stand. -/
inductive Form
  | word (name : Name) (depth : Nat) (more : More)
  | group (inner : Form) (depth : Nat) (more : More)
  | function (params : Params) (result : Form)

inductive More
  | done
  | next (form : Form)

inductive Params
  | done
  | param (form : Form) (rest : Params)

end

def brackets : Nat → List Char
  | 0 => []
  | depth + 1 => '[' :: ']' :: brackets depth

/-- What stands in front of the type of a parameter. -/
def paramLead (n : Nat) : List Char := "arg".toList ++ (Nat.toDigits 10 n ++ ": ".toList)

mutual

def Form.chars : Form → List Char
  | .word name depth more => name.chars ++ (brackets depth ++ more.chars)
  | .group inner depth more => '(' :: (inner.chars ++ ')' :: (brackets (depth + 1) ++ more.chars))
  | .function params result => '(' :: (params.chars ++ (") => ".toList ++ result.chars))

def More.chars : More → List Char
  | .done => []
  | .next form => " | ".toList ++ form.chars

/-- The parameters behind the first `n`. -/
def Params.charsFrom (n : Nat) : Params → List Char
  | .done => []
  | .param form rest => ", ".toList ++ (paramLead n ++ (form.chars ++ rest.charsFrom (n + 1)))

def Params.chars : Params → List Char
  | .done => []
  | .param form rest => paramLead 0 ++ (form.chars ++ rest.charsFrom 1)

end

/-! ## Unique reading -/

/-- What can follow a written type: nothing, the end of a group, or the next parameter. -/
def Stops (cs : List Char) : Prop := ∀ c ∈ cs.head?, c = ')' ∨ c = ','

theorem stops_nil : Stops [] := by
  rintro c ⟨⟩

theorem stops_close (cs : List Char) : Stops (')' :: cs) := by
  rintro c ⟨⟩
  exact .inl rfl

theorem Params.stops_charsFrom (n : Nat) (params : Params) (cs : List Char) :
    Stops (params.charsFrom n ++ ')' :: cs) := by
  cases params with
  | done => exact stops_close cs
  | param form rest =>
    rintro c ⟨⟩
    exact .inr rfl

theorem Stops.ends {kind : Char → Bool} {cs : List Char} (h : Stops cs) (hClose : kind ')' = false)
    (hComma : kind ',' = false) : Ends kind cs := by
  intro c hc
  rcases h c hc with rfl | rfl
  · exact hClose
  · exact hComma

theorem More.ends {kind : Char → Bool} (more : More) {cs : List Char} (h : Stops cs)
    (hClose : kind ')' = false) (hComma : kind ',' = false) (hBlank : kind ' ' = false) :
    Ends kind (more.chars ++ cs) := by
  cases more with
  | done => exact h.ends hClose hComma
  | next form => exact ends_cons hBlank _

/-- A name ends where its brackets, a further member or the end follow. -/
theorem ends_brackets (depth : Nat) (more : More) {cs : List Char} (h : Stops cs) :
    Ends isIdentifierPart (brackets depth ++ (more.chars ++ cs)) := by
  cases depth with
  | zero => exact more.ends h (by decide) (by decide) (by decide)
  | succ depth => exact ends_cons (by decide) _

theorem brackets_append_inj {m n : Nat} {cs ds : List Char} (hc : Ends (· == '[') cs)
    (hd : Ends (· == '[') ds) (h : brackets m ++ cs = brackets n ++ ds) : m = n ∧ cs = ds := by
  induction m generalizing n with
  | zero =>
    cases n with
    | zero => exact ⟨rfl, h⟩
    | succ n =>
      obtain rfl : cs = _ := h
      exact absurd (hc '[' rfl) (by decide)
  | succ m ih =>
    cases n with
    | zero =>
      obtain rfl : _ = ds := h
      exact absurd (hd '[' rfl) (by decide)
    | succ n =>
      obtain ⟨rfl, hRest⟩ := ih (List.cons.inj (List.cons.inj h).2).2
      exact ⟨rfl, hRest⟩

theorem word_append_ne_cons {c : Char} (hc : Text.isIdentifierStart c = false) (name : Name)
    (depth : Nat) (more : More) (cs ds : List Char) :
    (Form.word name depth more).chars ++ cs ≠ c :: ds := by
  rw [Form.chars, List.append_assoc]
  exact name.append_ne_cons hc _ _

theorem Form.append_ne_close (form : Form) (cs ds : List Char) : form.chars ++ cs ≠ ')' :: ds := by
  cases form with
  | word name depth more => exact word_append_ne_cons (by decide) name depth more cs ds
  | group inner depth more => simp [Form.chars]
  | function params result => simp [Form.chars]

/-- A type does not start like a parameter: its first name is not followed by a colon. -/
theorem Form.append_ne_param (form : Form) {cs : List Char} (hs : Stops cs) (ds : List Char) :
    form.chars ++ cs ≠ paramLead 0 ++ ds := by
  intro h
  cases form with
  | word name depth more =>
    have hLead : paramLead 0 ++ ds = (Name.mk "arg0" (by decide)).chars ++ ':' :: ' ' :: ds := rfl
    rw [hLead, Form.chars, List.append_assoc, List.append_assoc] at h
    obtain ⟨-, hBehind⟩ := Name.append_inj (ends_brackets depth more hs)
      (ends_cons (by decide) _) h
    cases depth with
    | zero =>
      have hEnds : Ends (· == ':') (more.chars ++ cs) := more.ends hs rfl rfl rfl
      rw [show more.chars ++ cs = ':' :: ' ' :: ds from hBehind] at hEnds
      exact absurd (hEnds ':' rfl) (by decide)
    | succ depth => exact absurd (List.cons.inj hBehind).1 (by decide)
  | group inner depth more => exact absurd (List.cons.inj h).1 (by decide)
  | function params result => exact absurd (List.cons.inj h).1 (by decide)

/-- The head of a function is not a group. -/
theorem group_ne_function (inner : Form) (params : Params) (cs ds : List Char) :
    inner.chars ++ ')' :: cs ≠ params.chars ++ ')' :: ds := by
  cases params with
  | done => exact inner.append_ne_close _ _
  | param form rest =>
    rw [Params.chars, List.append_assoc]
    exact inner.append_ne_param (stops_close cs) _

mutual

/-- A text that begins with a written type and stops behind it determines the type. -/
theorem Form.append_inj : (f g : Form) → {cs ds : List Char} → Stops cs → Stops ds →
    f.chars ++ cs = g.chars ++ ds → f = g ∧ cs = ds
  | .word x m more, .word y n next, cs, ds, hs, ht, h => by
    rw [Form.chars, Form.chars, List.append_assoc, List.append_assoc, List.append_assoc,
      List.append_assoc] at h
    -- a name ends where the brackets begin, and these end where the bars begin
    obtain ⟨rfl, hBrackets⟩ := Name.append_inj (ends_brackets m more hs)
      (ends_brackets n next ht) h
    obtain ⟨rfl, hMore⟩ := brackets_append_inj (more.ends hs rfl rfl rfl)
      (next.ends ht rfl rfl rfl) hBrackets
    obtain ⟨rfl, rfl⟩ := More.append_inj more next hs ht hMore
    exact ⟨rfl, rfl⟩
  | .group inner m more, .group other n next, cs, ds, hs, ht, h => by
    simp only [Form.chars, List.cons_append, List.append_assoc, List.cons.injEq, true_and] at h
    obtain ⟨rfl, hRest⟩ := Form.append_inj inner other (stops_close _) (stops_close _) h
    obtain ⟨hDepth, hMore⟩ := brackets_append_inj (more.ends hs rfl rfl rfl)
      (next.ends ht rfl rfl rfl) (List.cons.inj hRest).2
    obtain rfl : m = n := Nat.succ.inj hDepth
    obtain ⟨rfl, rfl⟩ := More.append_inj more next hs ht hMore
    exact ⟨rfl, rfl⟩
  | .function params result, .function others other, cs, ds, hs, ht, h => by
    simp only [Form.chars, List.cons_append, List.append_assoc, List.cons.injEq, true_and] at h
    obtain ⟨rfl, hRest⟩ := Params.append_inj params others h
    have hArrow : " => ".toList ++ (result.chars ++ cs) = " => ".toList ++ (other.chars ++ ds) :=
      hRest
    obtain ⟨rfl, rfl⟩ := Form.append_inj result other hs ht (List.append_cancel_left hArrow)
    exact ⟨rfl, rfl⟩
  | .word _ _ _, .group _ _ _, _, _, _, _, h
  | .word _ _ _, .function _ _, _, _, _, _, h => absurd h (word_append_ne_cons rfl _ _ _ _ _)
  | .group _ _ _, .word _ _ _, _, _, _, _, h
  | .function _ _, .word _ _ _, _, _, _, _, h => absurd h.symm (word_append_ne_cons rfl _ _ _ _ _)
  | .group inner m more, .function others other, cs, ds, _, _, h => by
    simp only [Form.chars, List.cons_append, List.append_assoc, List.cons.injEq, true_and] at h
    exact absurd h (group_ne_function inner others _ _)
  | .function params result, .group other n next, cs, ds, _, _, h => by
    simp only [Form.chars, List.cons_append, List.append_assoc, List.cons.injEq, true_and] at h
    exact absurd h.symm (group_ne_function other params _ _)
termination_by structural form => form

theorem More.append_inj : (m n : More) → {cs ds : List Char} → Stops cs → Stops ds →
    m.chars ++ cs = n.chars ++ ds → m = n ∧ cs = ds
  | .done, .done, _, _, _, _, h => ⟨rfl, h⟩
  | .next f, .next g, _, _, hs, ht, h => by
    rw [More.chars, More.chars, List.append_assoc, List.append_assoc] at h
    obtain ⟨rfl, rfl⟩ := Form.append_inj f g hs ht (List.append_cancel_left h)
    exact ⟨rfl, rfl⟩
  | .done, .next g, cs, _, hs, _, h => by
    obtain rfl : cs = _ := h
    exact absurd (hs ' ' rfl) (by decide)
  | .next f, .done, _, ds, _, ht, h => by
    obtain rfl : _ = ds := h
    exact absurd (ht ' ' rfl) (by decide)
termination_by structural more => more

theorem Params.charsFrom_append_inj : (n : Nat) → (p q : Params) → {cs ds : List Char} →
    p.charsFrom n ++ ')' :: cs = q.charsFrom n ++ ')' :: ds → p = q ∧ cs = ds
  | _, .done, .done, _, _, h => ⟨rfl, (List.cons.inj h).2⟩
  | _, .done, .param _ _, _, _, h => absurd (List.cons.inj h).1 (by decide)
  | _, .param _ _, .done, _, _, h => absurd (List.cons.inj h).1 (by decide)
  | n, .param f rest, .param g more, cs, ds, h => by
    simp only [Params.charsFrom, List.append_assoc] at h
    have hForms := List.append_cancel_left (List.append_cancel_left h)
    obtain ⟨rfl, hRest⟩ := Form.append_inj f g (Params.stops_charsFrom _ rest cs)
      (Params.stops_charsFrom _ more ds) hForms
    obtain ⟨rfl, rfl⟩ := Params.charsFrom_append_inj (n + 1) rest more hRest
    exact ⟨rfl, rfl⟩
termination_by structural _ params => params

theorem Params.append_inj : (p q : Params) → {cs ds : List Char} →
    p.chars ++ ')' :: cs = q.chars ++ ')' :: ds → p = q ∧ cs = ds
  | .done, .done, _, _, h => ⟨rfl, (List.cons.inj h).2⟩
  | .done, .param _ _, _, _, h => absurd (List.cons.inj h).1 (by decide)
  | .param _ _, .done, _, _, h => absurd (List.cons.inj h).1 (by decide)
  | .param f rest, .param g more, cs, ds, h => by
    simp only [Params.chars, List.append_assoc] at h
    have hForms := List.append_cancel_left h
    obtain ⟨rfl, hRest⟩ := Form.append_inj f g (Params.stops_charsFrom _ rest cs)
      (Params.stops_charsFrom _ more ds) hForms
    obtain ⟨rfl, rfl⟩ := Params.charsFrom_append_inj 1 rest more hRest
    exact ⟨rfl, rfl⟩
termination_by structural params => params

end

theorem Form.chars_injective {f g : Form} (h : f.chars = g.chars) : f = g := by
  have hSame : f.chars ++ [] = g.chars ++ [] := by rw [h]
  exact (Form.append_inj f g stops_nil stops_nil hSame).1

end ServiceCompiler.TypeScript.Grouping
