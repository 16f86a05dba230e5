import ServiceCompiler.Proofs.Text.Fragment
import ServiceCompiler.Proofs.Text.Phrase

/-! # The edges of texts

How a text begins and ends decides what it is as a line: a blank in front would move it, and a colon
at the end announces lines under it. In a composed text only the outermost pieces count. -/

namespace ServiceCompiler.Text

open Phrase (Segment spell)

/-- There is a first character, and it is no blank. -/
def opens (cs : List Char) : Bool := cs.head?.any fun c => !c.isWhitespace

/-- There is a last character, and it is a colon or is not. -/
def closes (colon : Bool) (cs : List Char) : Bool := cs.getLast?.any fun c => (c == ':') == colon

/-- A text that can stand as a line, with or without a colon at its end. -/
structure Edged (colon : Bool) (t : String) : Prop where
  opens : opens t.toList = true
  closes : closes colon t.toList = true

variable {colon : Bool} {t : String}

instance (colon : Bool) (t : String) : Decidable (Edged colon t) :=
  decidable_of_iff (opens t.toList = true ∧ closes colon t.toList = true)
    ⟨fun h => ⟨h.1, h.2⟩, fun h => ⟨h.opens, h.closes⟩⟩

theorem opens_append {cs : List Char} (h : opens cs = true) (ds : List Char) :
    opens (cs ++ ds) = true := by
  cases cs with
  | nil => cases h
  | cons c cs => exact h

theorem closes_append {ds : List Char} (cs : List Char) (h : closes colon ds = true) :
    closes colon (cs ++ ds) = true := by
  cases hLast : ds.getLast? with
  | none => simp [closes, hLast] at h
  | some c =>
    rw [closes, hLast] at h
    rwa [closes, List.getLast?_append, hLast]

theorem not_closes_true {cs : List Char} (h : closes false cs = true) :
    cs.getLast? ≠ some ':' := by
  intro hColon
  simp [closes, hColon] at h

theorem Edged.append {front : Bool} {u : String} (ht : Edged front t) (hu : Edged colon u) :
    Edged colon (t ++ u) := by
  constructor
  · rw [String.toList_append]
    exact opens_append ht.opens _
  · rw [String.toList_append]
    exact closes_append _ hu.closes

/-! ## Texts from pieces -/

def Phrase.Segment.chars : Segment → List Char
  | .lit cs => cs
  | .arg t => t.toList

/-- The first piece opens the text. -/
def opening (ps : List Segment) : Bool := ps.head?.any fun q => opens q.chars

/-- The last piece closes the text. -/
def closing (colon : Bool) (ps : List Segment) : Bool :=
  ps.getLast?.any fun q => closes colon q.chars

theorem edged_spell (ps : List Segment) (hOpening : opening ps = true)
    (hClosing : closing colon ps = true) : Edged colon (spell ps) := by
  have hChars : (spell ps).toList = ps.flatMap Segment.chars := by
    rw [Phrase.toList_spell]
    refine congrArg (List.flatMap · ps) (funext fun q => ?_)
    cases q <;> simp [Segment.text, Segment.chars]
  constructor
  · obtain ⟨first, hFirst, hOpens⟩ := Option.any_eq_true _ _ |>.mp hOpening
    obtain ⟨rest, rfl⟩ := List.head?_eq_some_iff.mp hFirst
    rw [hChars, List.flatMap_cons]
    exact opens_append hOpens _
  · obtain ⟨last, hLast, hCloses⟩ := Option.any_eq_true _ _ |>.mp hClosing
    obtain ⟨front, rfl⟩ := List.getLast?_eq_some_iff.mp hLast
    rw [hChars, List.flatMap_append, List.flatMap_singleton]
    exact closes_append _ hCloses

/-! ## Numbers and quotations -/

theorem inNumbers_edge {c : Char} (h : Phrase.inNumbers c = true) :
    c.isWhitespace = false ∧ c ≠ ':' := by
  have hMarks : ['-', '+', '.', 'e', 'N', 'a', 'i', 'n', 'f'].all
      (fun d => !d.isWhitespace && d != ':') = true := by decide
  simp only [Phrase.inNumbers, Bool.or_eq_true, List.contains_iff_mem] at h
  rcases h with hDigit | hMark
  · exact forall_ascii (P := fun c => c.isDigit → c.isWhitespace = false ∧ c ≠ ':')
      (by decide +kernel) (toNat_lt_of_isAlphanum (isAlphanum_of_isDigit hDigit)) hDigit
  · simpa using List.all_eq_true.mp hMarks c hMark

theorem edged_of_inNumbers (hSome : t.toList ≠ [])
    (h : ∀ c ∈ t.toList, Phrase.inNumbers c = true) : Edged false t := by
  constructor
  · obtain ⟨c, rest, hText⟩ := List.exists_cons_of_ne_nil hSome
    have hFirst := inNumbers_edge (h c (by simp [hText]))
    simp [opens, hText, hFirst.1]
  · obtain ⟨c, hLast⟩ := Option.ne_none_iff_exists'.mp (mt List.getLast?_eq_none_iff.mp hSome)
    have hFinal := inNumbers_edge (h c (List.mem_of_getLast? hLast))
    simp [closes, hLast, hFinal.2]

theorem edged_nat (n : Nat) : Edged false (toString n) := by
  have hText : (toString n).toList = Nat.toDigits 10 n := by simp [toString, Nat.repr]
  refine edged_of_inNumbers ?_ fun c hc => Phrase.inNumbers_of_mem_toDigits (hText ▸ hc)
  rw [hText]
  exact Nat.toDigits_ne_nil

theorem edged_int (n : Int) : Edged false (toString n) := by
  cases n with
  | ofNat n => exact edged_nat n
  | negSucc n =>
    have hText : toString (Int.negSucc n) = spell [.lit ['-'], .arg (toString (n + 1))] := rfl
    rw [hText]
    exact edged_spell _ rfl (edged_nat (n + 1)).closes

theorem scientific_ne_nil (layout : Decimal.Layout) (x : Decimal.Scientific) :
    layout.scientific x ≠ [] := by
  unfold Decimal.Layout.scientific Decimal.positional Decimal.exponential
  split
  · split <;> simp
  · simp

theorem render_ne_nil (layout : Decimal.Layout) (x : Float) : (layout.render x).toList ≠ [] := by
  unfold Decimal.Layout.render
  dsimp only
  split
  · decide
  · simp
  · simp
  · simp [scientific_ne_nil]

theorem edged_render (layout : Decimal.Layout) (x : Float) : Edged false (layout.render x) :=
  edged_of_inNumbers (render_ne_nil layout x) fun _ => Phrase.inNumbers_render layout x

theorem edged_quote {delimiter : Char} (hBlank : delimiter.isWhitespace = false)
    (hColon : delimiter ≠ ':') (s : String) : Edged false (quote delimiter s) := by
  constructor
  · simp [quote, quoteChars, opens, hBlank]
  · rw [quote, String.toList_ofList]
    exact closes_append _ (by simp [closes, hColon])

end ServiceCompiler.Text
