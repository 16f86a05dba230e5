import ServiceCompiler.Proofs.Text.Fragment
import ServiceCompiler.Text.Words

/-! # Camel case of snake-case text

What camel case makes of text in lower-case letters, digits and `_`: a `_` in front of a letter
leaves a trace, the capital, and any other `_` is lost. The text without the lost `_` can be read
back. -/

namespace ServiceCompiler.Text

/-- Camel case of snake-case text. The flag tells whether a `_` was read last. -/
def raised : Bool → List Char → List Char
  | _, [] => []
  | marked, c :: rest =>
    if c = '_' then raised true rest
    else (if marked then c.toUpper else c) :: raised false rest

/-- Snake-case text without the `_` that no letter follows. -/
def lettered : List Char → List Char
  | [] => []
  | c :: rest =>
    if c = '_' ∧ rest.head?.any Char.isLower = false then lettered rest else c :: lettered rest

/-- Snake case of camel-case text. -/
def lowered (cs : List Char) : List Char :=
  cs.flatMap fun c => if c.isUpper then ['_', c.toLower] else [c]

theorem raised_cons_mark (marked : Bool) (rest : List Char) :
    raised marked ('_' :: rest) = raised true rest := rfl

theorem raised_cons {c : Char} (h : c ≠ '_') (marked : Bool) (rest : List Char) :
    raised marked (c :: rest) = (bif marked then c.toUpper else c) :: raised false rest := by
  cases marked <;> simp [raised, h]

theorem lowered_cons_plain {c : Char} (h : c.isUpper = false) (rest : List Char) :
    lowered (c :: rest) = c :: lowered rest := by
  simp [lowered, h]

theorem lowered_cons_upper {c : Char} (h : c.isUpper) (rest : List Char) :
    lowered (c :: rest) = '_' :: c.toLower :: lowered rest := by
  simp [lowered, h]

/-- How the case functions treat a character of snake-case text. -/
structure Cased (c : Char) : Prop where
  lower : toLower c = [c]
  upper : toUpper c = [c.toUpper]
  notUpper : isUpper c = false
  plain : c.isUpper = false
  alphanumeric : isAlphanumeric c = (c != '_')
  notSigma : c ≠ 'Σ'

instance (c : Char) : Decidable (Cased c) :=
  decidable_of_iff (toLower c = [c] ∧ toUpper c = [c.toUpper] ∧ isUpper c = false ∧
      c.isUpper = false ∧ isAlphanumeric c = (c != '_') ∧ c ≠ 'Σ')
    ⟨fun ⟨h₁, h₂, h₃, h₄, h₅, h₆⟩ => ⟨h₁, h₂, h₃, h₄, h₅, h₆⟩,
      fun ⟨h₁, h₂, h₃, h₄, h₅, h₆⟩ => ⟨h₁, h₂, h₃, h₄, h₅, h₆⟩⟩

theorem cased_of_isSnake {c : Char} (h : isSnake c) : Cased c :=
  forall_ascii (P := fun c => isSnake c → Cased c) (by decide +kernel) (toNat_lt_of_isSnake h) h

theorem toUpper_of_isLower {c : Char} (h : c.isLower) :
    c.toUpper.isUpper ∧ c.toUpper.toLower = c ∧ c ≠ '_' := by
  have hSnake : isSnake c := by simp [isSnake, h]
  exact forall_ascii (P := fun c => c.isLower → c.toUpper.isUpper ∧ c.toUpper.toLower = c ∧ c ≠ '_')
    (by decide +kernel) (toNat_lt_of_isSnake hSnake) h

theorem toUpper_of_isDigit {c : Char} (h : c.isDigit) : c.toUpper = c ∧ c ≠ '_' := by
  have hSnake : isSnake c := by simp [isSnake, h]
  exact forall_ascii (P := fun c => c.isDigit → c.toUpper = c ∧ c ≠ '_')
    (by decide +kernel) (toNat_lt_of_isSnake hSnake) h

/-! ## Words of snake-case text -/

theorem cutWords_of_not_isUpper {cs : List Char} (h : ∀ c ∈ cs, isUpper c = false)
    (state : WordCase) (word : List Char) :
    cutWords state word cs = if cs = [] then [] else [word.reverse ++ cs] := by
  induction cs generalizing state word with
  | nil => rfl
  | cons c rest ih =>
    obtain ⟨hFirst, hRest⟩ := List.forall_mem_cons.mp h
    cases rest with
    | nil => simp [cutWords]
    | cons next more =>
      have hNext := hRest next List.mem_cons_self
      rw [cutWords]
      simp only [hNext, hFirst, Bool.and_false, Bool.false_and, Bool.false_eq_true, if_false]
      rw [ih hRest]
      simp

theorem lowerWord_of_isSnake {cs : List Char} (h : ∀ c ∈ cs, isSnake c) : lowerWord cs = cs := by
  induction cs with
  | nil => rfl
  | cons c rest ih =>
    obtain ⟨hFirst, hRest⟩ := List.forall_mem_cons.mp h
    have hCased := cased_of_isSnake hFirst
    cases rest with
    | nil => rw [lowerWord, if_neg hCased.notSigma, hCased.lower]
    | cons next more =>
      rw [lowerWord, hCased.lower, ih hRest]
      · rfl
      · simp

theorem capitalWord_of_isSnake {c : Char} {cs : List Char} (h : ∀ d ∈ c :: cs, isSnake d) :
    capitalWord (c :: cs) = c.toUpper :: cs := by
  obtain ⟨hFirst, hRest⟩ := List.forall_mem_cons.mp h
  rw [capitalWord, (cased_of_isSnake hFirst).upper, lowerWord_of_isSnake hRest]
  rfl

/-- The runs of snake-case text, and its camel case as that of its runs. -/
theorem raised_eq_runs {cs : List Char} (h : ∀ c ∈ cs, isSnake c) :
    ∃ run runs, alphanumericRuns cs = run :: runs ∧ (∀ r ∈ run :: runs, ∀ c ∈ r, isSnake c) ∧
      ∀ marked, raised marked cs =
        (if marked then capitalWord run else run) ++ runs.flatMap capitalWord := by
  induction cs with
  | nil => exact ⟨[], [], rfl, by simp, by simp [raised, capitalWord]⟩
  | cons c rest ih =>
    obtain ⟨hFirst, hRest⟩ := List.forall_mem_cons.mp h
    obtain ⟨run, runs, hRuns, hSnake, hRaised⟩ := ih hRest
    have hAlphanumeric := (cased_of_isSnake hFirst).alphanumeric
    by_cases hMark : c = '_'
    -- the underscore opens an empty run and marks the next one
    · refine ⟨[], run :: runs, ?_, ?_, fun marked => ?_⟩
      · rw [alphanumericRuns, hAlphanumeric, hMark, hRuns]
        rfl
      · exact List.forall_mem_cons.mpr ⟨by simp, hSnake⟩
      · rw [raised, if_pos hMark, hRaised true]
        cases marked <;> simp [capitalWord]
    · have hWord : ∀ d ∈ c :: run, isSnake d :=
        List.forall_mem_cons.mpr ⟨hFirst, hSnake run List.mem_cons_self⟩
      refine ⟨c :: run, runs, ?_, ?_, fun marked => ?_⟩
      · rw [alphanumericRuns, hAlphanumeric, hRuns]
        simp [hMark]
      · exact List.forall_mem_cons.mpr ⟨hWord, (List.forall_mem_cons.mp hSnake).2⟩
      · rw [raised, if_neg hMark, hRaised false, capitalWord_of_isSnake hWord]
        cases marked <;> rfl

/-- Without capitals every run is a word. -/
theorem flatMap_cutWords {runs : List (List Char)} (h : ∀ r ∈ runs, ∀ c ∈ r, isSnake c) :
    runs.flatMap (cutWords .none []) = runs.filter (!·.isEmpty) := by
  induction runs with
  | nil => rfl
  | cons run runs ih =>
    obtain ⟨hRun, hRuns⟩ := List.forall_mem_cons.mp h
    have hPlain : ∀ c ∈ run, isUpper c = false := by
      intro c hc
      exact (cased_of_isSnake (hRun c hc)).notUpper
    rw [List.flatMap_cons, cutWords_of_not_isUpper hPlain, ih hRuns]
    cases run <;> simp

theorem flatMap_capitalWord_filter (runs : List (List Char)) :
    (runs.filter (!·.isEmpty)).flatMap capitalWord = runs.flatMap capitalWord := by
  induction runs with
  | nil => rfl
  | cons run runs ih =>
    cases run with
    | nil => simpa [capitalWord] using ih
    | cons c rest => simpa using ih

theorem lowerCamelCase_of_ne {c : Char} {rest : List Char} (h : ∀ d ∈ c :: rest, isSnake d)
    (hMark : c ≠ '_') :
    lowerCamelCase (String.ofList (c :: rest)) = String.ofList (raised false (c :: rest)) := by
  obtain ⟨hFirst, hRest⟩ := List.forall_mem_cons.mp h
  obtain ⟨run, runs, hRuns, hSnake, hRaised⟩ := raised_eq_runs hRest
  have hWord : ∀ d ∈ c :: run, isSnake d :=
    List.forall_mem_cons.mpr ⟨hFirst, hSnake run List.mem_cons_self⟩
  have hAll := List.forall_mem_cons.mpr ⟨hWord, (List.forall_mem_cons.mp hSnake).2⟩
  have hWords : words (String.ofList (c :: rest)) = (c :: run) :: runs.filter (!·.isEmpty) := by
    rw [words, String.toList_ofList, alphanumericRuns, (cased_of_isSnake hFirst).alphanumeric,
      if_pos (by simpa using hMark), hRuns]
    exact flatMap_cutWords hAll
  rw [lowerCamelCase, hWords]
  dsimp only
  rw [lowerWord_of_isSnake hWord, flatMap_capitalWord_filter, raised, if_neg hMark, hRaised false]
  rfl

theorem words_mark (cs : List Char) :
    words (String.ofList ('_' :: cs)) = words (String.ofList cs) := by
  simp only [words, String.toList_ofList]
  rfl

theorem lowerCamelCase_of_isFragment {cs : List Char} (h : IsFragment cs) :
    lowerCamelCase (String.ofList cs) = String.ofList (raised false cs) := by
  cases cs with
  | nil => rfl
  | cons c rest =>
    rcases h.start c rest rfl with hLower | ⟨rfl, d, more, rfl, hDigit⟩
    · exact lowerCamelCase_of_ne h.snake (toUpper_of_isLower hLower).2.2
    · obtain ⟨hUpper, hMark⟩ := toUpper_of_isDigit hDigit
      have hSame : raised false ('_' :: d :: more) = raised false (d :: more) := by
        simp [raised, hMark, hUpper]
      rw [hSame, ← lowerCamelCase_of_ne (List.forall_mem_cons.mp h.snake).2 hMark, lowerCamelCase,
        lowerCamelCase, words_mark]

theorem raised_ne_nil {cs : List Char} (h : IsFragment cs) (hcs : cs ≠ []) :
    raised false cs ≠ [] := by
  cases cs with
  | nil => exact absurd rfl hcs
  | cons c rest =>
    rcases h.start c rest rfl with hLower | ⟨rfl, d, more, rfl, hDigit⟩
    · rw [raised_cons (toUpper_of_isLower hLower).2.2]
      exact List.cons_ne_nil _ _
    · rw [raised_cons_mark, raised_cons (toUpper_of_isDigit hDigit).2]
      exact List.cons_ne_nil _ _

/-! ## What camel case keeps -/

/-- A `_` raises nothing but letters. -/
theorem raised_mark {cs : List Char} (h : ∀ c ∈ cs, isSnake c)
    (hHead : cs.head?.any Char.isLower = false) (marked : Bool) :
    raised true cs = raised marked cs := by
  cases cs with
  | nil => rfl
  | cons c rest =>
    have hFirst := h c List.mem_cons_self
    have hLower : c.isLower = false := hHead
    simp only [isSnake, hLower, Bool.false_or, Bool.or_eq_true, beq_iff_eq] at hFirst
    rcases hFirst with hDigit | hMark
    · cases marked <;> simp [raised, (toUpper_of_isDigit hDigit).1]
    · rw [raised, raised, if_pos hMark, if_pos hMark]

theorem raised_lettered {cs : List Char} (h : ∀ c ∈ cs, isSnake c) (marked : Bool) :
    raised marked (lettered cs) = raised marked cs := by
  induction cs generalizing marked with
  | nil => rfl
  | cons c rest ih =>
    obtain ⟨-, hRest⟩ := List.forall_mem_cons.mp h
    rw [lettered]
    split
    · rename_i hLost
      rw [ih hRest, raised, if_pos hLost.1, raised_mark hRest hLost.2]
    · rw [raised, raised, ih hRest, ih hRest]

theorem lowered_raised {cs : List Char} (h : ∀ c ∈ cs, isSnake c) :
    lowered (raised false (lettered cs)) = lettered cs := by
  induction cs with
  | nil => rfl
  | cons c rest ih =>
    obtain ⟨hFirst, hRest⟩ := List.forall_mem_cons.mp h
    have hLetters := ih hRest
    by_cases hMark : c = '_'
    · cases rest with
      | nil => simp [lettered, hMark, raised, lowered]
      | cons d more =>
        by_cases hLower : d.isLower
        · -- The capital tells of the `_`; the rest is as in the text without it.
          obtain ⟨hUpper, hBack, hLetter⟩ := toUpper_of_isLower hLower
          have hKept : lettered (d :: more) = d :: lettered more := by simp [lettered, hLetter]
          have hPlain := (cased_of_isSnake (hRest d List.mem_cons_self)).plain
          rw [hKept, raised_cons hLetter, cond_false, lowered_cons_plain hPlain] at hLetters
          rw [lettered, if_neg (by simp [hLower]), hKept, hMark, raised_cons_mark,
            raised_cons hLetter, cond_true, lowered_cons_upper hUpper, hBack, hLetters]
        · rw [lettered, if_pos ⟨hMark, by simpa using hLower⟩]
          exact hLetters
    · have hPlain := (cased_of_isSnake hFirst).plain
      rw [lettered, if_neg fun hLost => hMark hLost.1, raised_cons hMark, cond_false,
        lowered_cons_plain hPlain, hLetters]

/-- Camel case tells snake-case texts apart but for the `_` that no letter follows. -/
theorem raised_inj {as bs : List Char} (hAs : ∀ c ∈ as, isSnake c) (hBs : ∀ c ∈ bs, isSnake c) :
    raised false as = raised false bs ↔ lettered as = lettered bs := by
  rw [← raised_lettered hAs, ← raised_lettered hBs]
  constructor
  · intro hSame
    rw [← lowered_raised hAs, hSame, lowered_raised hBs]
  · intro hSame
    rw [hSame]

end ServiceCompiler.Text
