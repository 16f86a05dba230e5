import ServiceCompiler.Proofs.Source.Emission

/-! # Functions over lines

Python marks what belongs to a function by indentation alone. `functionOver` finds the header of the
innermost function around a line. `Laid` says how the lines of a body are laid out: under every
header of a function stands what belongs to it, and outside of asynchronous functions no line
awaits. Main statements: a line that awaits stands in an asynchronous function, and the lines that
mention another phrase are those that were counted. -/

namespace ServiceCompiler.Python

open Source (Line Emit nested Additive mentioning)
open Source.Emit (Yields line nest head)
open Text (Mentions Phrase)

def awaiting : Phrase := ⟨"await", _, rfl, none, by decide⟩

/-- Whether a line is the header of a function, and whether of an asynchronous one. -/
def functionKind (text : String) : Option Bool :=
  if "async def ".toList <+: text.toList then some true
  else if "def ".toList <+: text.toList then some false
  else none

/-- The header of the innermost function around a line at a depth, given the lines in front of it,
the nearest first. -/
def functionOver : Nat → List Line → Option String
  | _, [] => none
  | depth, .gap :: ls => functionOver depth ls
  | depth, .code d text :: ls =>
    if d < depth ∧ text ≠ "" then
      if (functionKind text).isSome then some text else functionOver d ls
    else functionOver depth ls

/-- The depth that is left when all the lines have been looked at. -/
def depthOver : Nat → List Line → Nat
  | depth, [] => depth
  | depth, .gap :: ls => depthOver depth ls
  | depth, .code d text :: ls =>
    if d < depth ∧ text ≠ "" then depthOver d ls else depthOver depth ls

theorem functionOver_append (depth : Nat) (ls ms : List Line) :
    functionOver depth (ls ++ ms) =
      (functionOver depth ls).or (functionOver (depthOver depth ls) ms) := by
  induction ls generalizing depth with
  | nil => rfl
  | cons l ls ih =>
    cases l with
    | gap => exact ih depth
    | code d text =>
      simp only [List.cons_append, functionOver, depthOver]
      split_ifs
      · rfl
      · exact ih d
      · exact ih depth

theorem depthOver_append (depth : Nat) (ls ms : List Line) :
    depthOver depth (ls ++ ms) = depthOver (depthOver depth ls) ms := by
  induction ls generalizing depth with
  | nil => rfl
  | cons l ls ih =>
    cases l with
    | gap => exact ih depth
    | code d text =>
      simp only [List.cons_append, depthOver]
      split_ifs
      · exact ih d
      · exact ih depth

theorem functionOver_nested (depth : Nat) (ls : List Line) :
    functionOver (depth + 1) (nested ls) = functionOver depth ls := by
  induction ls generalizing depth with
  | nil => rfl
  | cons l ls ih =>
    cases l with
    | gap => exact ih depth
    | code d text =>
      simp only [nested, List.map_cons, Line.deeper, functionOver, Nat.add_lt_add_iff_right]
      split_ifs
      · rfl
      · exact ih d
      · exact ih depth

theorem depthOver_nested (depth : Nat) (ls : List Line) :
    depthOver (depth + 1) (nested ls) = depthOver depth ls + 1 := by
  induction ls generalizing depth with
  | nil => rfl
  | cons l ls ih =>
    cases l with
    | gap => exact ih depth
    | code d text =>
      simp only [nested, List.map_cons, Line.deeper, depthOver, Nat.add_lt_add_iff_right]
      split_ifs
      · exact ih d
      · exact ih depth

theorem functionOver_zero (ls : List Line) : functionOver 0 ls = none ∧ depthOver 0 ls = 0 := by
  induction ls with
  | nil => exact ⟨rfl, rfl⟩
  | cons l ls ih => cases l <;> simpa [functionOver, depthOver] using ih

/-! ## Laid out lines -/

/-- Whether a phrase other than a permitted `await` is kept out. -/
def Quiet (p : Phrase) (awaits : Bool) : Prop := p = awaiting → awaits = false

/-- A line mentions the phrase as often as it counts, or awaits where this is permitted. -/
def Stands (p : Phrase) (inAsync : Bool) (count : Nat) (text : String) : Prop :=
  (count = 0 ∧ (Quiet p inAsync → p.Clear text)) ∨ (count = 1 ∧ Mentions p.text text)

/-- Lines of a body in a function that is asynchronous or not, with the number of those that mention
the phrase. -/
inductive Laid (p : Phrase) : Bool → Nat → List Line → Prop
  | nil {inAsync : Bool} : Laid p inAsync 0 []
  | item {inAsync : Bool} {i j k : Nat} {text : String} {body rest : List Line}
      (hText : Stands p inAsync i text) (hHead : text ≠ "" ∨ body = [])
      (hBody : Laid p ((functionKind text).getD inAsync) j body) (hRest : Laid p inAsync k rest) :
      Laid p inAsync (i + j + k) (.code 0 text :: (nested body ++ rest))

variable {p : Phrase} {inAsync : Bool}

theorem additive_laid (p : Phrase) (inAsync : Bool) : Additive (Laid p inAsync) where
  nil := .nil
  append {j k ls ms} hFirst hSecond := by
    induction hFirst with
    | nil => simpa using hSecond
    | item hText hHead hBody hRest _ ih =>
      rw [List.cons_append, List.append_assoc, Nat.add_assoc]
      exact .item hText hHead hBody (ih hSecond)

theorem Laid.line {count : Nat} {text : String} (hText : Stands p inAsync count text) :
    Laid p inAsync count [.code 0 text] := by
  simpa [nested] using Laid.item hText (.inr rfl) .nil .nil

theorem Laid.head {k : Nat} {text : String} {body : List Line} (hText : Stands p inAsync 0 text)
    (hHead : text ≠ "") (hBody : Laid p ((functionKind text).getD inAsync) k body) :
    Laid p inAsync k (.code 0 text :: nested body) := by
  simpa using Laid.item hText (.inl hHead) hBody .nil

/-- A phrase other than `await` stands in the lines that count. -/
theorem mentioning_of_laid {k : Nat} {ls : List Line} (hLaid : Laid p inAsync k ls)
    (hOther : p ≠ awaiting) : mentioning [p.text] ls = k := by
  induction hLaid with
  | nil => rfl
  | item hText _ _ _ ihBody ihRest =>
    rw [Source.mentioning_cons, Source.mentioning_append, Source.mentioning_nested, ihBody, ihRest,
      Nat.add_assoc, Nat.add_right_cancel_iff]
    rcases hText with ⟨rfl, hClear⟩ | ⟨rfl, hMentions⟩
    · have hNot := (hClear fun h => absurd h hOther).not_mentions
      rw [Source.mentions_eq_false (by simpa using hNot), if_neg Bool.false_ne_true]
    · rw [Source.mentions_eq_true List.mem_cons_self hMentions, if_pos rfl]

/-! ## Where lines await -/

/-- What has been found around a line in a body: an asynchronous function inside the body, or the one
the body belongs to. -/
def Scoped (inAsync : Bool) (depth : Nat) (ahead : List Line) : Prop :=
  (∃ text, functionOver depth ahead = some text ∧ functionKind text = some true) ∨
    (functionOver depth ahead = none ∧ depthOver depth ahead = 0 ∧ inAsync = true)

theorem Scoped.further {depth : Nat} {ahead : List Line} (h : Scoped inAsync depth ahead)
    (more : List Line) : Scoped inAsync depth (ahead ++ more) := by
  rw [Scoped, functionOver_append, depthOver_append]
  rcases h with ⟨text, hFound, hKind⟩ | ⟨hNone, hDepth, hAsync⟩
  · exact .inl ⟨text, by rw [hFound]; rfl, hKind⟩
  · obtain ⟨hFunction, hZero⟩ := functionOver_zero more
    exact .inr ⟨by rw [hNone, hDepth, hFunction]; rfl, by rw [hDepth, hZero], hAsync⟩

/-- From the lines under a header to those with the header. -/
theorem Scoped.under {depth : Nat} {ahead : List Line} {text : String} (hText : text ≠ "")
    (h : Scoped ((functionKind text).getD inAsync) depth ahead) :
    Scoped inAsync (depth + 1) (nested ahead ++ [.code 0 text]) := by
  rw [Scoped, functionOver_append, depthOver_append, functionOver_nested, depthOver_nested]
  rcases h with ⟨inner, hFound, hKind⟩ | ⟨hNone, hDepth, hAsync⟩
  · exact .inl ⟨inner, by rw [hFound]; rfl, hKind⟩
  · rw [hNone, hDepth, Option.none_or]
    cases hKind : functionKind text with
    | some isAsync =>
      rw [hKind, Option.getD_some] at hAsync
      exact .inl ⟨text, by simp [functionOver, hText, hKind], by rw [hKind, hAsync]⟩
    | none =>
      rw [hKind, Option.getD_none] at hAsync
      exact .inr ⟨by simp [functionOver, hText, hKind], by simp [depthOver, hText], hAsync⟩

/-- A line among nested lines is one among the lines, at a smaller depth. -/
theorem eq_append_of_nested {ls before after : List Line} {depth : Nat} {text : String}
    (h : nested ls = before ++ .code depth text :: after) :
    ∃ inner d later, ls = inner ++ .code d text :: later ∧ before = nested inner ∧
      depth = d + 1 := by
  obtain ⟨inner, rest, rfl, rfl, hRest⟩ := List.map_eq_append_iff.mp h
  obtain ⟨l, later, rfl, hLine, -⟩ := List.map_eq_cons_iff.mp hRest
  cases l with
  | gap => cases hLine
  | code d t =>
    obtain ⟨rfl, rfl⟩ := Line.code.inj hLine
    exact ⟨inner, d, later, rfl, rfl, rfl⟩

theorem scoped_of_laid {k : Nat} {ls : List Line} (hLaid : Laid awaiting inAsync k ls) (hk : k = 0)
    {before after : List Line} {depth : Nat} {text : String}
    (hLines : ls = before ++ .code depth text :: after) (hAwaits : Mentions "await" text) :
    Scoped inAsync depth before.reverse := by
  induction hLaid generalizing before after depth with
  | nil => simp at hLines
  | @item inAsync i j k header body rest hText hHead _ _ ihBody ihRest =>
    obtain ⟨⟨rfl, rfl⟩, rfl⟩ : (i = 0 ∧ j = 0) ∧ k = 0 := by omega
    rcases List.cons_eq_append_iff.mp hLines with ⟨rfl, hSame⟩ | ⟨front, rfl, hRest⟩
    · -- the first line itself, outside of all functions in the body
      obtain ⟨hFirst, -⟩ := List.cons.inj hSame
      obtain ⟨rfl, rfl⟩ := Line.code.inj hFirst
      refine .inr ⟨rfl, rfl, ?_⟩
      rcases hText with ⟨-, hClear⟩ | ⟨hOne, -⟩
      · refine eq_true_of_ne_false fun hFalse => ?_
        exact (hClear fun _ => hFalse).not_mentions hAwaits
      · cases hOne
    · rw [List.reverse_cons]
      rcases List.append_eq_append_iff.mp hRest with ⟨more, rfl, hLater⟩ | ⟨more, hBody, hLater⟩
      · -- behind what stands under the first line
        rw [List.reverse_append, List.append_assoc]
        exact (ihRest rfl hLater).further _
      · cases more with
        | nil =>
          rw [List.append_nil] at hBody
          have hFirst : Scoped inAsync depth ([] : List Line).reverse := ihRest rfl hLater.symm
          rw [← hBody, ← List.nil_append (nested body).reverse, List.append_assoc]
          exact hFirst.further _
        | cons l more =>
          -- under the first line
          obtain ⟨rfl, rfl⟩ := List.cons.inj hLater
          obtain ⟨inner, d, later, rfl, rfl, rfl⟩ := eq_append_of_nested hBody
          rw [nested, ← List.map_reverse]
          exact (ihBody rfl rfl).under (hHead.resolve_right (by simp))

end ServiceCompiler.Python
