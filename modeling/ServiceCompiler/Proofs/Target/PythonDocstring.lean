import Mathlib.Data.List.DropRight
import Mathlib.Data.List.Induction
import ServiceCompiler.Proofs.Text.Replacement
import ServiceCompiler.Target.PythonRecord

/-! # Docstrings

The description of a command stands between two triple quotes, with apostrophes for the triple
quotes in it. Main statement: the second triple quote is the one that ends the docstring, depending
on the quotes and backslashes at the end of the description and on nothing else. -/

namespace ServiceCompiler.Python

open Text (replaced replaced_append replaced_append_self replaced_eq_self getLast?_replaced)

/-- What follows an opening triple quote: the text up to the next triple quote, and what stands
behind that. A backslash takes the character behind it along. -/
def readTriple : List Char → Option (List Char × List Char)
  | '"' :: '"' :: '"' :: rest => some ([], rest)
  | '\\' :: c :: rest => (readTriple rest).map fun (text, after) => ('\\' :: c :: text, after)
  | c :: rest => (readTriple rest).map fun (text, after) => (c :: text, after)
  | [] => none

/-- The text of a docstring at the start of a program, and the program behind it. -/
def readDocstring (s : String) : Option (String × String) :=
  match s.toList with
  | '"' :: '"' :: '"' :: rest =>
    (readTriple rest).map fun (text, after) => (.ofList text, .ofList after)
  | _ => none

/-! ## How a text ends -/

/-- The end of a text inside a docstring: a quote that counts, a backslash that waits for a
character, or anything else. -/
inductive Ending
  | plain | quote | escape
  deriving DecidableEq, Repr

def Ending.next (e : Ending) (c : Char) : Ending :=
  if e = .escape then .plain
  else if c = '\\' then .escape
  else if c = '"' then .quote
  else .plain

def ending (cs : List Char) : Ending := cs.foldl Ending.next .plain

/-- Only at the very end of a text does it matter whether a quote stood in front. -/
theorem next_eq {e : Ending} (he : e ≠ .escape) (c : Char) : e.next c = Ending.plain.next c := by
  simp [Ending.next, he]

theorem foldl_next_eq {e : Ending} (he : e ≠ .escape) {cs : List Char} (hSome : cs ≠ []) :
    cs.foldl Ending.next e = ending cs := by
  obtain ⟨c, cs, rfl⟩ := List.exists_cons_of_ne_nil hSome
  rw [ending, List.foldl_cons, List.foldl_cons, next_eq he]

theorem readTriple_cons {c : Char} {rest : List Char} (hc : c ≠ '\\')
    (h : ¬ ['"', '"', '"'] <+: c :: rest) :
    readTriple (c :: rest) = (readTriple rest).map fun (text, after) => (c :: text, after) := by
  rw [readTriple]
  · rintro more rfl rfl
    exact h (List.prefix_append ['"', '"', '"'] more)
  · rintro d more hSlash -
    exact hc hSlash

theorem map_cons_eq_some_iff {c : Char} {read : Option (List Char × List Char)}
    {text after : List Char} :
    read.map (fun (t, a) => (c :: t, a)) = some (c :: text, after) ↔ read = some (text, after) := by
  rcases read with _ | ⟨t, a⟩ <;> simp

theorem ending_cons {c : Char} (hc : c ≠ '\\') {cs : List Char} (hSome : cs ≠ []) :
    ending (c :: cs) = ending cs := by
  have hNext : Ending.plain.next c ≠ .escape := by
    rw [Ending.next, if_neg (by decide), if_neg hc]
    split <;> decide
  exact foldl_next_eq hNext hSome

/-- A text without triple quotes is read up to the triple quote behind it exactly if its end leaves
that alone. -/
theorem readTriple_append_iff {cs : List Char} (hFree : ¬ ['"', '"', '"'] <:+: cs)
    (after : List Char) :
    readTriple (cs ++ '"' :: '"' :: '"' :: after) = some (cs, after) ↔ ending cs = .plain := by
  induction cs using List.twoStepInduction with
  | nil => simp [readTriple, ending]
  | singleton c =>
    by_cases hSlash : c = '\\'
    · -- the first of the three quotes is taken along
      subst hSlash
      rcases hRead : readTriple ('"' :: '"' :: after) with _ | ⟨text, rest⟩ <;>
        simp [readTriple, hRead, ending, Ending.next]
    · by_cases hQuote : c = '"'
      · subst hQuote
        simp [readTriple, ending, Ending.next]
      · have hNot : ¬ ['"', '"', '"'] <+: c :: '"' :: '"' :: '"' :: after := by
          rw [List.cons_prefix_cons]
          rintro ⟨rfl, -⟩
          exact hQuote rfl
        simp [readTriple_cons hSlash hNot, readTriple, ending, Ending.next, hSlash, hQuote]
  | cons_cons c d cs ih ihTail =>
    by_cases hSlash : c = '\\'
    · subst hSlash
      have hRest : ¬ ['"', '"', '"'] <:+: cs :=
        fun h => hFree (h.trans (List.suffix_append ['\\', d] cs).isInfix)
      have hEnding : ending ('\\' :: d :: cs) = ending cs := rfl
      rw [hEnding, ← ih hRest]
      rcases hRead : readTriple (cs ++ '"' :: '"' :: '"' :: after) with _ | ⟨text, rest⟩ <;>
        simp [readTriple, hRead]
    · by_cases hPrefix : ['"', '"', '"'] <+: c :: (d :: cs ++ '"' :: '"' :: '"' :: after)
      -- three quotes in a row can only be made with the closing ones
      · obtain ⟨rfl, hTwo⟩ := List.cons_prefix_cons.mp hPrefix
        obtain ⟨rfl, hOne⟩ := List.cons_prefix_cons.mp hTwo
        cases cs with
        | nil => simp [readTriple, ending, Ending.next]
        | cons e cs =>
          obtain ⟨rfl, -⟩ := List.cons_prefix_cons.mp hOne
          exact absurd (List.prefix_append ['"', '"', '"'] cs).isInfix hFree
      · have hRest : ¬ ['"', '"', '"'] <:+: d :: cs :=
          fun h => hFree (h.trans (List.suffix_cons c _).isInfix)
        rw [List.cons_append, readTriple_cons hSlash hPrefix, map_cons_eq_some_iff,
          ihTail d hRest, ending_cons hSlash (List.cons_ne_nil d cs)]

/-! ## The end of a description -/

def tripleQuote : Text.Phrase where
  text := "\"\"\""
  chars := ['"', '"', '"']
  text_eq := rfl
  closer := none
  proper := by decide

/-- The description as it stands in its docstring. -/
def cleaned (cs : List Char) : List Char := replaced ['"', '"', '"'] ['\'', '\'', '\''] cs

theorem not_infix_cleaned (cs : List Char) : ¬ ['"', '"', '"'] <:+: cleaned cs :=
  Text.Phrase.free_replaced (p := tripleQuote) rfl (by decide) (by decide) (by decide) cs

def endQuotes (cs : List Char) : Nat := (cs.rtakeWhile (· == '"')).length

/-- The backslashes in front of the quotes at the end. -/
def endSlashes (cs : List Char) : Nat :=
  ((cs.rdropWhile (· == '"')).rtakeWhile (· == '\\')).length

/-- Backslashes at the end come in pairs, a single quote needs one more, and several quotes must be
cut into triples. -/
def Closable (description : String) : Prop :=
  let quotes := endQuotes description.toList
  let slashes := endSlashes description.toList
  (if quotes < 2 then (quotes + slashes) % 2 else quotes % 3) = 0

instance (description : String) : Decidable (Closable description) :=
  inferInstanceAs (Decidable (_ = _))

theorem rtakeWhile_eq_replicate (c : Char) (cs : List Char) :
    cs.rtakeWhile (· == c) = List.replicate (cs.rtakeWhile (· == c)).length c := by
  rw [List.eq_replicate_iff]
  refine ⟨rfl, fun d hd => ?_⟩
  have hSame : (d == c) = true := List.mem_rtakeWhile_imp (p := (· == c)) hd
  exact beq_iff_eq.mp hSame

theorem getLast?_rdropWhile (c : Char) (cs : List Char) :
    (cs.rdropWhile (· == c)).getLast? ≠ some c := by
  intro hLast
  obtain ⟨front, hFront⟩ := List.getLast?_eq_some_iff.mp hLast
  have hNot := List.rdropWhile_last_not (· == c) cs (by simp [hFront])
  simp [hFront] at hNot

/-- A text in front of its last quotes and the backslashes before them. -/
theorem exists_front (cs : List Char) :
    ∃ front, cs = front ++ List.replicate (endSlashes cs) '\\' ++
        List.replicate (endQuotes cs) '"' ∧
      front.getLast? ≠ some '\\' ∧
      (front ++ List.replicate (endSlashes cs) '\\').getLast? ≠ some '"' := by
  have hBody : (cs.rdropWhile (· == '"')).rdropWhile (· == '\\') ++
      List.replicate (endSlashes cs) '\\' = cs.rdropWhile (· == '"') := by
    rw [endSlashes, ← rtakeWhile_eq_replicate, List.rdropWhile_append_rtakeWhile]
  refine ⟨(cs.rdropWhile (· == '"')).rdropWhile (· == '\\'), ?_, getLast?_rdropWhile _ _, ?_⟩
  · rw [hBody, endQuotes, ← rtakeWhile_eq_replicate, List.rdropWhile_append_rtakeWhile]
  · rw [hBody]
    exact getLast?_rdropWhile _ _

theorem cleaned_front {front : List Char} {slashes : Nat} (quotes : Nat)
    (hLast : (front ++ List.replicate slashes '\\').getLast? ≠ some '"') :
    cleaned (front ++ List.replicate slashes '\\' ++ List.replicate quotes '"') =
      cleaned front ++ List.replicate slashes '\\' ++ cleaned (List.replicate quotes '"') := by
  have hPattern : ['"', '"', '"'] ≠ [] := List.cons_ne_nil _ _
  have hQuotes {u v : List Char} (hSplit : ['"', '"', '"'] = u ++ v) {c : Char} (hc : c ∈ u ++ v) :
      c = '"' := by
    rw [← hSplit] at hc
    simpa using hc
  have hSlashes : cleaned (List.replicate slashes '\\') = List.replicate slashes '\\' := by
    refine replaced_eq_self fun hInfix => ?_
    exact absurd (List.eq_of_mem_replicate (hInfix.subset List.mem_cons_self)) (by decide)
  rw [cleaned, replaced_append hPattern, replaced_append hPattern]
  · exact congrArg (fun cs => _ ++ cs ++ _) hSlashes
  -- no triple of quotes spans the backslashes
  · intro u v hSplit hu hv hSuffix hPrefix
    obtain ⟨c, w, rfl⟩ := List.exists_cons_of_ne_nil hv
    have hQuote := hQuotes hSplit (List.mem_append_right u List.mem_cons_self)
    have hSlash := List.eq_of_mem_replicate (hPrefix.subset List.mem_cons_self)
    rw [hQuote] at hSlash
    exact absurd hSlash (by decide)
  · intro u v hSplit hu hv hSuffix hPrefix
    obtain ⟨c, hc⟩ := Option.ne_none_iff_exists'.mp (mt List.getLast?_eq_none_iff.mp hu)
    have hQuote := hQuotes hSplit (List.mem_append_left v (List.mem_of_getLast? hc))
    obtain ⟨before, hBefore⟩ := hSuffix
    refine hLast ?_
    rw [← hBefore, List.getLast?_append, hc, hQuote]
    rfl

theorem ending_concat (cs : List Char) (c : Char) : ending (cs ++ [c]) = (ending cs).next c := by
  rw [ending, List.foldl_append, ending]
  rfl

theorem ending_ne_escape {cs : List Char} (h : cs.getLast? ≠ some '\\') : ending cs ≠ .escape := by
  rcases List.eq_nil_or_concat' cs with rfl | ⟨front, c, rfl⟩
  · decide
  · have hc : c ≠ '\\' := by simpa using h
    rw [ending_concat, Ending.next, if_neg hc]
    split
    · decide
    · split <;> decide

theorem ending_eq_plain {cs : List Char} (hSlash : cs.getLast? ≠ some '\\')
    (hQuote : cs.getLast? ≠ some '"') : ending cs = .plain := by
  rcases List.eq_nil_or_concat' cs with rfl | ⟨front, c, rfl⟩
  · rfl
  · have hc : c ≠ '\\' := by simpa using hSlash
    have hq : c ≠ '"' := by simpa using hQuote
    rw [ending_concat, Ending.next, if_neg hc, if_neg hq, ite_self]

theorem foldl_slashes (n : Nat) :
    (List.replicate n '\\').foldl Ending.next .plain = (if n % 2 = 0 then .plain else .escape) ∧
      (List.replicate n '\\').foldl Ending.next .escape =
        (if n % 2 = 0 then .escape else .plain) := by
  induction n with
  | zero => exact ⟨rfl, rfl⟩
  | succ n ih =>
    obtain ⟨hPlain, hEscape⟩ := ih
    rw [List.replicate_succ, List.foldl_cons, List.foldl_cons]
    constructor
    · refine hEscape.trans ?_
      split <;> split <;> first | rfl | omega
    · refine hPlain.trans ?_
      split <;> split <;> first | rfl | omega

theorem foldl_triple (e : Ending) (n : Nat) :
    (cleaned (List.replicate (n + 3) '"')).foldl Ending.next e =
      ending (cleaned (List.replicate n '"')) := by
  have hCleaned : cleaned (List.replicate (n + 3) '"') =
      ['\'', '\'', '\''] ++ cleaned (List.replicate n '"') :=
    replaced_append_self (List.cons_ne_nil _ _) (List.replicate n '"')
  rw [hCleaned, List.foldl_append]
  cases e <;> rfl

theorem ending_quotes : ∀ n, ending (cleaned (List.replicate n '"')) = .plain ↔ n % 3 = 0
  | 0 => by decide
  | 1 => by decide
  | 2 => by decide
  | n + 3 => by
    rw [ending, foldl_triple, ending_quotes n]
    omega

theorem ending_cleaned_iff (cs : List Char) :
    ending (cleaned cs) = .plain ↔
      (if endQuotes cs < 2 then (endQuotes cs + endSlashes cs) % 2 else endQuotes cs % 3) = 0 := by
  obtain ⟨front, hFront, hSlash, hQuote⟩ := exists_front cs
  generalize endSlashes cs = slashes, endQuotes cs = quotes at hFront hQuote ⊢
  -- apostrophes at the end change nothing: they are no backslashes and no quotes
  have hEnd : (cleaned front).getLast? = front.getLast? ∨ (cleaned front).getLast? = some '\'' :=
    getLast?_replaced (List.cons_ne_nil _ _) (List.cons_ne_nil _ _) front
  have hBefore : (List.replicate slashes '\\').foldl Ending.next (ending (cleaned front)) =
      if slashes % 2 = 0 then .plain else .escape := by
    have hNot : (cleaned front).getLast? ≠ some '\\' := by
      rcases hEnd with h | h <;> rw [h]
      · exact hSlash
      · decide
    cases slashes with
    | zero =>
      refine ending_eq_plain hNot ?_
      rcases hEnd with h | h <;> rw [h]
      · simpa using hQuote
      · decide
    | succ n =>
      rw [foldl_next_eq (ending_ne_escape hNot) (by simp)]
      exact (foldl_slashes (n + 1)).1
  rw [hFront, cleaned_front quotes hQuote, ending, List.foldl_append, List.foldl_append, ← ending,
    hBefore]
  match quotes with
  | 0 =>
    rw [if_pos (by decide : 0 < 2), Nat.zero_add]
    split
    · rename_i hEven
      exact iff_of_true rfl hEven
    · rename_i hOdd
      exact iff_of_false (by decide) hOdd
  | 1 =>
    rw [if_pos (by decide : 1 < 2)]
    split
    · rename_i hEven
      exact iff_of_false (by decide) (by omega)
    · rename_i hOdd
      exact iff_of_true rfl (by omega)
  | 2 =>
    rw [if_neg (by decide : ¬ 2 < 2)]
    split <;> exact iff_of_false (by decide) (by decide)
  | n + 3 =>
    rw [foldl_triple, ending_quotes, if_neg (by omega)]
    omega

/-- The triple quote behind a description ends its docstring exactly if the description is
closable. -/
theorem readDocstring_append_iff (description after : String) :
    readDocstring (docstring description ++ after) =
        some (Text.replaceAll "\"\"\"" "'''" description, after) ↔
      Closable description := by
  have hCleaned : (Text.replaceAll "\"\"\"" "'''" description).toList = cleaned description.toList :=
    Text.toList_replaceAll _ _ _
  have hText : (docstring description ++ after).toList =
      '"' :: '"' :: '"' :: (cleaned description.toList ++ '"' :: '"' :: '"' :: after.toList) := by
    simp [docstring, hCleaned]
  rw [Closable, ← ending_cleaned_iff, ← readTriple_append_iff (not_infix_cleaned _) after.toList,
    readDocstring, hText]
  constructor
  · intro hRead
    obtain ⟨⟨text, rest⟩, hTriple, hSame⟩ := Option.map_eq_some_iff.mp hRead
    rw [Prod.mk.injEq, ← String.toList_inj, ← String.toList_inj, String.toList_ofList,
      String.toList_ofList, hCleaned] at hSame
    rw [hTriple, hSame.1, hSame.2]
  · intro hTriple
    simp only [hTriple, Option.map_some]
    rw [← hCleaned, String.ofList_toList, String.ofList_toList]

end ServiceCompiler.Python
