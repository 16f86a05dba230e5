import ServiceCompiler.Proofs.Text.Phrase
import ServiceCompiler.Source.Emit

/-! # What emissions yield

Statements about the value and the lines of an emission that hold whatever number comes next, built
up along its steps. Lines are measured by a number that adds up, such as the number of lines that
mention a phrase. -/

namespace ServiceCompiler.Source

open Text (Mentions)

/-- A measure of lines that adds up from line to line. -/
structure Additive (L : Nat → List Line → Prop) : Prop where
  nil : L 0 []
  append {j k : Nat} {ls ms : List Line} (hFirst : L j ls) (hSecond : L k ms) : L (j + k) (ls ++ ms)

namespace Emit

variable {α β : Type}

/-- The value and the lines of an emission are as stated, from any number on. -/
def Yields (m : Emit α) (V : α → Prop) (L : List Line → Prop) : Prop :=
  ∀ n, V (m n).value ∧ L (m n).lines

variable {m : Emit α} {f : α → Emit β} {U V : α → Prop} {W : β → Prop}
  {L : Nat → List Line → Prop} {j k : Nat}

theorem Yields.mono {K : List Line → Prop} (h : m.Yields U K) (hValue : ∀ a, U a → V a) :
    m.Yields V K :=
  fun n => ⟨hValue _ (h n).1, (h n).2⟩

theorem Yields.measure (h : m.Yields V (L j)) (hSame : j = k) : m.Yields V (L k) := hSame ▸ h

theorem yields_pure (hL : Additive L) {a : α} (h : V a) : Yields (pure a) V (L 0) :=
  fun _ => ⟨h, hL.nil⟩

theorem Yields.bind (hL : Additive L) (hFirst : m.Yields U (L j))
    (hRest : ∀ a, U a → (f a).Yields W (L k)) : (m >>= f).Yields W (L (j + k)) := by
  intro n
  obtain ⟨hValue, hLines⟩ := hFirst n
  obtain ⟨hResult, hMore⟩ := hRest _ hValue (m n).next
  exact ⟨hResult, hL.append hLines hMore⟩

/-- A first step that counts nothing. -/
theorem Yields.andThen (hL : Additive L) (hFirst : m.Yields U (L 0))
    (hRest : ∀ a, U a → (f a).Yields W (L k)) : (m >>= f).Yields W (L k) :=
  (hFirst.bind hL hRest).measure (Nat.zero_add k)

/-- A last step that counts nothing. -/
theorem Yields.andLast (hL : Additive L) (hFirst : m.Yields U (L k))
    (hRest : ∀ a, U a → (f a).Yields W (L 0)) : (m >>= f).Yields W (L k) :=
  hFirst.bind hL hRest

theorem yields_write {ls : List Line} (h : L k ls) : (write ls).Yields (fun _ => True) (L k) :=
  fun _ => ⟨trivial, h⟩

theorem Yields.capture (hL : Additive L) {K : List Line → Prop} (h : m.Yields V K) :
    (capture m).Yields (fun r => V r.1 ∧ K r.2) (L 0) :=
  fun n => ⟨h n, hL.nil⟩

theorem yields_number (hL : Additive L) {V : Nat → Prop} (h : ∀ n, V n) : number.Yields V (L 0) :=
  fun n => ⟨h n, hL.nil⟩

theorem yields_fresh (hL : Additive L) {kind : String} {V : String → Prop}
    (h : ∀ n : Nat, V s!"__{kind}_{n}") : (fresh kind).Yields V (L 0) :=
  fun n => ⟨h n, hL.nil⟩

theorem yields_only (hL : Additive L) {condition : Bool} {m : Emit Unit}
    (h : m.Yields (fun _ => True) (L 0)) : (only condition m).Yields (fun _ => True) (L 0) := by
  cases condition with
  | true => exact h
  | false => exact yields_pure hL trivial

theorem yields_each (hL : Additive L) {xs : List α} {g : α → Emit Unit}
    (h : ∀ x ∈ xs, (g x).Yields (fun _ => True) (L 0)) :
    (each xs g).Yields (fun _ => True) (L 0) := by
  induction xs with
  | nil => exact yields_pure hL trivial
  | cons x xs ih =>
    refine (h x List.mem_cons_self).andThen hL fun _ _ => ?_
    exact ih fun y hy => h y (List.mem_cons_of_mem _ hy)

theorem yields_collect (hL : Additive L) {xs : List α} {g : α → Emit β}
    (h : ∀ x ∈ xs, (g x).Yields W (L 0)) :
    (collect xs g).Yields (fun ys => ∀ y ∈ ys, W y) (L 0) := by
  induction xs with
  | nil => exact yields_pure hL (by simp)
  | cons x xs ih =>
    refine (h x List.mem_cons_self).andThen hL fun y hy => ?_
    refine (ih fun z hz => h z (List.mem_cons_of_mem _ hz)).andThen hL fun ys hys => ?_
    exact yields_pure hL (List.forall_mem_cons.mpr ⟨hy, hys⟩)

/-- Lines that were captured and a last line, under a header. -/
theorem head_captured (text last : String) (inner : List Line) (a : α) :
    (do line text; write (nested inner); nest (line last); return a) =
      head text (do write inner; line last; return a) := by
  funext n
  simp [head, line, nest, write, nested]

end Emit

/-! ## Parts of an emission -/

namespace Emit

variable {α β γ : Type} {m : Emit α}

/-- The lines of an emission stand in a row among the lines of another. -/
def Within (m : Emit α) (e : Emit β) : Prop := ∀ n, ∃ k, (m k).lines <:+: (e n).lines

theorem Within.refl (m : Emit α) : m.Within m := fun n => ⟨n, List.infix_rfl⟩

theorem Within.before {e : Emit β} (h : m.Within e) (f : β → Emit γ) : m.Within (e >>= f) := by
  intro n
  obtain ⟨k, hInfix⟩ := h n
  exact ⟨k, List.infix_append_of_infix_left hInfix⟩

theorem Within.after {f : β → Emit γ} (e : Emit β) (h : ∀ b, m.Within (f b)) :
    m.Within (e >>= f) := by
  intro n
  obtain ⟨k, hInfix⟩ := h (e n).value (e n).next
  exact ⟨k, List.infix_append_of_infix_right hInfix⟩

/-- What comes second may rely on the value of what comes first. -/
theorem Within.behind {f : β → Emit γ} {e : Emit β} {V : β → Prop} (hValue : ∀ n, V (e n).value)
    (h : ∀ b, V b → m.Within (f b)) : m.Within (e >>= f) := by
  intro n
  obtain ⟨k, hInfix⟩ := h (e n).value (hValue n) (e n).next
  exact ⟨k, List.infix_append_of_infix_right hInfix⟩

theorem Within.nest {e : Emit β} (h : m.Within e) : (nest m).Within (nest e) := by
  intro n
  obtain ⟨k, hInfix⟩ := h n
  exact ⟨k, hInfix.map Line.deeper⟩

theorem Within.braces {e : Emit β} (h : m.Within e) (opening tail : String) :
    (Emit.nest m).Within (braces opening e tail) :=
  Within.after _ fun _ => h.nest.before _

theorem within_each {xs : List α} {x : α} (hx : x ∈ xs) (f : α → Emit Unit) :
    (f x).Within (each xs f) := by
  induction xs with
  | nil => cases hx
  | cons y ys ih =>
    rcases List.mem_cons.mp hx with rfl | hx
    · exact (Within.refl _).before _
    · exact Within.after _ fun _ => ih hx

theorem Within.trans {e : Emit β} {f : Emit γ} (h : m.Within e) (hOuter : e.Within f) :
    m.Within f := by
  intro n
  obtain ⟨k, hInfix⟩ := hOuter n
  obtain ⟨j, hInner⟩ := h k
  exact ⟨j, hInner.trans hInfix⟩

/-- An emission writes a line, from any number on. -/
def Writes (e : Emit β) (l : Line) : Prop := ∀ n, l ∈ (e n).lines

theorem Writes.before {e : Emit β} {l : Line} (h : e.Writes l) (f : β → Emit γ) :
    (e >>= f).Writes l :=
  fun n => List.mem_append_left _ (h n)

theorem Writes.after {f : β → Emit γ} {l : Line} (e : Emit β) (h : ∀ b, (f b).Writes l) :
    (e >>= f).Writes l :=
  fun n => List.mem_append_right _ (h _ (e n).next)

theorem Writes.nest {e : Emit β} {l : Line} (h : e.Writes l) : (Emit.nest e).Writes l.deeper :=
  fun n => List.mem_map_of_mem (h n)

theorem Writes.braces {e : Emit β} {l : Line} (h : e.Writes l) (opening tail : String) :
    (Emit.braces opening e tail).Writes l.deeper :=
  Writes.after _ fun _ => h.nest.before _

theorem writes_each {xs : List α} {x : α} {l : Line} (hx : x ∈ xs) {f : α → Emit Unit}
    (h : (f x).Writes l) : (each xs f).Writes l := by
  induction xs with
  | nil => cases hx
  | cons y ys ih =>
    rcases List.mem_cons.mp hx with rfl | hx
    · exact h.before _
    · exact Writes.after _ fun _ => ih hx

end Emit

/-! ## Lines that mention a phrase -/

/-- Whether one of the phrases stands in a line. -/
def Line.mentions (phrases : List String) : Line → Bool
  | code _ text => phrases.any fun phrase => decide (Mentions phrase text)
  | gap => false

/-- The number of lines in which one of the phrases stands. -/
def mentioning (phrases : List String) (ls : List Line) : Nat := ls.countP (Line.mentions phrases)

variable {phrases : List String}

theorem mentions_eq_false {depth : Nat} {text : String} (h : ∀ p ∈ phrases, ¬ Mentions p text) :
    (Line.code depth text).mentions phrases = false := by
  simpa [Line.mentions] using h

theorem mentions_eq_true {depth : Nat} {text phrase : String} (hMem : phrase ∈ phrases)
    (h : Mentions phrase text) : (Line.code depth text).mentions phrases = true := by
  simp only [Line.mentions, List.any_eq_true, decide_eq_true_eq]
  exact ⟨phrase, hMem, h⟩

@[simp] theorem mentions_deeper (l : Line) : l.deeper.mentions phrases = l.mentions phrases := by
  cases l <;> rfl

theorem mentioning_cons (l : Line) (ls : List Line) :
    mentioning phrases (l :: ls) =
      (if l.mentions phrases then 1 else 0) + mentioning phrases ls := by
  rw [mentioning, List.countP_cons, Nat.add_comm, mentioning]

@[simp] theorem mentioning_append (ls ms : List Line) :
    mentioning phrases (ls ++ ms) = mentioning phrases ls + mentioning phrases ms :=
  List.countP_append

@[simp] theorem mentioning_nested (ls : List Line) :
    mentioning phrases (nested ls) = mentioning phrases ls := by
  simp [mentioning, nested, List.countP_map, Function.comp_def]

/-- The measure of the lines that mention a phrase. -/
def Mentioning (phrases : List String) (k : Nat) (ls : List Line) : Prop :=
  mentioning phrases ls = k

theorem additive_mentioning (phrases : List String) : Additive (Mentioning phrases) where
  nil := rfl
  append hFirst hSecond := by simp_all [Mentioning]

namespace Emit

variable {α : Type} {m : Emit α} {V : α → Prop} {k : Nat}

theorem yields_line {text : String} (h : ∀ p ∈ phrases, ¬ Mentions p text) :
    (line text).Yields (fun _ => True) (Mentioning phrases 0) := by
  refine fun _ => ⟨trivial, ?_⟩
  simp [Mentioning, mentioning, line, mentions_eq_false h]

theorem yields_lines {texts : List String} (h : ∀ t ∈ texts, ∀ p ∈ phrases, ¬ Mentions p t) :
    (lines texts).Yields (fun _ => True) (Mentioning phrases 0) := by
  refine fun _ => ⟨trivial, List.countP_eq_zero.mpr fun l hl => ?_⟩
  obtain ⟨t, ht, rfl⟩ := List.mem_map.mp hl
  simp [mentions_eq_false (h t ht)]

theorem yields_hit {text phrase : String} (hMem : phrase ∈ phrases) (h : Mentions phrase text) :
    (line text).Yields (fun _ => True) (Mentioning phrases 1) := by
  refine fun _ => ⟨trivial, ?_⟩
  simp [Mentioning, mentioning, line, mentions_eq_true hMem h]

theorem Yields.nest (h : m.Yields V (Mentioning phrases k)) :
    (nest m).Yields V (Mentioning phrases k) := by
  intro n
  refine ⟨(h n).1, ?_⟩
  simpa [Emit.nest, Mentioning] using (h n).2

theorem Yields.enclosed {opening closing : String} (hOpening : ∀ p ∈ phrases, ¬ Mentions p opening)
    (h : m.Yields V (Mentioning phrases k)) (hClosing : ∀ p ∈ phrases, ¬ Mentions p closing) :
    (enclosed opening m closing).Yields V (Mentioning phrases k) := by
  have hL := additive_mentioning phrases
  refine (yields_line hOpening).andThen hL fun _ _ => ?_
  refine h.nest.andLast hL fun a ha => ?_
  exact (yields_line hClosing).andThen hL fun _ _ => yields_pure hL ha

end Emit

end ServiceCompiler.Source
