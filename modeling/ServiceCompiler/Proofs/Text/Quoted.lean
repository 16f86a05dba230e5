import ServiceCompiler.Text.Quoted

/-! # Quoted literals that are read back -/

namespace ServiceCompiler.Text

/-- The character that stands after a backslash for another one. -/
def unescape? (delimiter letter : Char) : Option Char :=
  if letter = '\\' then some '\\'
  else if letter = 'n' then some '\n'
  else if letter = 'r' then some '\r'
  else if letter = 't' then some '\t'
  else if letter = delimiter then some delimiter
  else none

/-- What follows an opening delimiter: the text up to the first delimiter without a backslash, and
what stands after that one. -/
def readQuoted (delimiter : Char) : List Char → Option (List Char × List Char)
  | [] => none
  | c :: cs =>
    if c = delimiter then some ([], cs)
    else if c = '\\' then
      match cs with
      | [] => none
      | letter :: rest => do
        let value ← unescape? delimiter letter
        let (text, after) ← readQuoted delimiter rest
        return (value :: text, after)
    else do
      let (text, after) ← readQuoted delimiter cs
      return (c :: text, after)

/-- A literal at the start of a text, and the text after it. -/
def readLiteral (delimiter : Char) (s : String) : Option (String × String) :=
  match s.toList with
  | [] => none
  | c :: cs =>
    if c = delimiter then
      (readQuoted delimiter cs).map fun (text, after) => (.ofList text, .ofList after)
    else none

variable {d : Char}

theorem readQuoted_escape {letter value : Char} (hd : d ≠ '\\')
    (hLetter : unescape? d letter = some value) (rest : List Char) :
    readQuoted d ('\\' :: letter :: rest) =
      (readQuoted d rest).map fun (text, after) => (value :: text, after) := by
  rw [readQuoted, if_neg hd.symm, if_pos rfl]
  simp only [hLetter]
  cases readQuoted d rest <;> rfl

theorem readQuoted_plain {c : Char} (hc : c ≠ d) (hEscape : c ≠ '\\') (rest : List Char) :
    readQuoted d (c :: rest) =
      (readQuoted d rest).map fun (text, after) => (c :: text, after) := by
  rw [readQuoted.eq_def]
  simp only [if_neg hc, if_neg hEscape]
  cases readQuoted d rest <;> rfl

/-- One character is read back, whatever follows it. The four letters are excluded because a
delimiter among them would be taken for an escape. -/
theorem readQuoted_quoteChar (hd : d ∉ ['\\', 'n', 'r', 't']) (c : Char) (rest : List Char) :
    readQuoted d (quoteChar d c ++ rest) =
      (readQuoted d rest).map fun (text, after) => (c :: text, after) := by
  have hBackslash : d ≠ '\\' := fun h => hd (h ▸ List.mem_cons_self)
  unfold quoteChar
  -- the four characters that have an escape in every literal
  iterate 4
    split
    · subst c
      exact readQuoted_escape hBackslash rfl rest
  split
  · subst c
    apply readQuoted_escape hBackslash
    simp only [List.mem_cons, List.not_mem_nil, or_false, not_or] at hd
    simp only [unescape?, hd, if_false, if_true]
  · rename_i hc _ _ _ hDelimiter
    exact readQuoted_plain hDelimiter hc rest

theorem readQuoted_flatMap (hd : d ∉ ['\\', 'n', 'r', 't']) (cs rest : List Char) :
    readQuoted d (cs.flatMap (quoteChar d) ++ d :: rest) = some (cs, rest) := by
  induction cs with
  | nil => simp [readQuoted.eq_def]
  | cons c cs ih =>
    rw [List.flatMap_cons, List.append_assoc, readQuoted_quoteChar hd, ih]
    rfl

theorem readLiteral_quote_append (hd : d ∉ ['\\', 'n', 'r', 't']) (text rest : String) :
    readLiteral d (quote d text ++ rest) = some (text, rest) := by
  have hChars : (quote d text ++ rest).toList =
      d :: (text.toList.flatMap (quoteChar d) ++ d :: rest.toList) := by
    simp [quote, quoteChars]
  rw [readLiteral, hChars]
  simp [readQuoted_flatMap hd]

theorem not_mem_quoteChar (hd : d ∉ ['\n', '\r', '\t']) {raw : Char}
    (hRaw : raw ∈ ['\n', '\r', '\t']) (c : Char) : raw ∉ quoteChar d c := by
  intro h
  have hOther : d ≠ raw := fun hSame => hd (hSame ▸ hRaw)
  unfold quoteChar at h
  simp only [List.mem_cons, List.not_mem_nil, or_false] at hRaw
  rcases hRaw with rfl | rfl | rfl <;> grind

theorem not_mem_quote (hd : d ∉ ['\n', '\r', '\t']) {raw : Char}
    (hRaw : raw ∈ ['\n', '\r', '\t']) (text : String) : raw ∉ (quote d text).toList := by
  intro h
  rw [quote, String.toList_ofList, quoteChars, List.mem_append, List.mem_cons, List.mem_flatMap,
    List.mem_singleton] at h
  rcases h with (rfl | ⟨c, -, hc⟩) | rfl
  · exact hd hRaw
  · exact not_mem_quoteChar hd hRaw c hc
  · exact hd hRaw

/-- A literal is never left early and never runs on: a reader that follows the escapes gets back
the quoted text and stops right before what was written next, and the literal stands on one line. -/
theorem readLiteral_quote (d : Char) (hd : d = '\'' ∨ d = '"') (text rest : String) :
    readLiteral d (quote d text ++ rest) = some (text, rest) ∧
      ∀ c ∈ (quote d text).toList, c ≠ '\n' ∧ c ≠ '\r' ∧ c ≠ '\t' := by
  constructor
  · apply readLiteral_quote_append
    rcases hd with rfl | rfl <;> decide
  · have hRaw : d ∉ ['\n', '\r', '\t'] := by
      rcases hd with rfl | rfl <;> decide
    intro c hc
    refine ⟨?_, ?_, ?_⟩
    all_goals
      rintro rfl
      exact not_mem_quote hRaw (by decide) text hc

/-- A text of backslashes next to both quotes, before a line feed and at the end. -/
theorem readLiteral_quote_backslashes :
    readLiteral '\'' (quote '\'' "\\'\"\\\n\\" ++ "' + 1") = some ("\\'\"\\\n\\", "' + 1") ∧
      ∀ c ∈ (quote '\'' "\\'\"\\\n\\").toList, c ≠ '\n' ∧ c ≠ '\r' ∧ c ≠ '\t' :=
  readLiteral_quote '\'' (.inl rfl) "\\'\"\\\n\\" "' + 1"

end ServiceCompiler.Text
