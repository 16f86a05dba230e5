import ServiceCompiler.Json.Reader
import ServiceCompiler.Proofs.Json.Numeral
import ServiceCompiler.Proofs.Json.Quoted

/-! # Documents that are read back

The elements of a list and the members of an object are written in the same way: each on a line of
its own. `Reads` says that a reader takes a text for a value whatever follows the text, and lists
and objects are read back by any readers that read back their parts. For whole documents it only
matters that their numbers read back and that they do not nest too deep. -/

namespace ServiceCompiler.Json

open ServiceCompiler.Outcome

variable {ε α β : Type}

theorem isBlank_newLine {level : Nat} {c : Char} (h : c ∈ newLine level) : isBlank c = true := by
  rcases List.mem_cons.mp h with rfl | h
  · rfl
  · rw [List.eq_of_mem_replicate h]
    rfl

theorem skipBlanks_newLine (level : Nat) (cs : List Char) :
    skipBlanks (newLine level ++ cs) = skipBlanks cs := by
  unfold skipBlanks
  rw [List.dropWhile_append_of_pos fun c hc => isBlank_newLine hc]

theorem skipBlanks_cons {c : Char} (h : isBlank c = false) (cs : List Char) :
    skipBlanks (c :: cs) = c :: cs := by
  simp [skipBlanks, h]

/-- The lines behind the first one, each after a comma. -/
def later (level : Nat) (texts : List (List Char)) : List Char :=
  texts.flatMap fun text => ',' :: newLine level ++ text

/-- The lines between the brackets of a list or an object, with the closing bracket. -/
def block (level : Nat) (close : Char) : List (List Char) → List Char
  | [] => [close]
  | text :: texts =>
    newLine (level + 1) ++ text ++ later (level + 1) texts ++ newLine level ++ [close]

theorem later_cons (level : Nat) (text : List Char) (texts : List (List Char)) :
    later level (text :: texts) = ',' :: newLine level ++ text ++ later level texts := by
  simp [later]

theorem length_le_later (level : Nat) (texts : List (List Char)) :
    texts.length ≤ (later level texts).length := by
  induction texts with
  | nil => simp
  | cons text texts ih =>
    simp only [later_cons, List.length_cons, List.length_append]
    omega

theorem length_lt_block (level : Nat) (close : Char) (texts : List (List Char)) :
    texts.length < (block level close texts).length := by
  cases texts with
  | nil => simp [block]
  | cons text texts =>
    have hLater := length_le_later (level + 1) texts
    have hLine : 0 < (newLine level).length := by simp [newLine]
    simp only [block, List.length_append, List.length_cons]
    omega

theorem prettyElements_cons (level : Nat) (v : Json) (vs : List Json) :
    prettyElements level (v :: vs) =
      newLine level ++ prettyChars level v ++ later level (vs.map (prettyChars level)) := by
  induction vs generalizing v with
  | nil => simp [prettyElements, later]
  | cons w vs ih => simp [prettyElements, ih, later_cons]

theorem prettyChars_array (level : Nat) (vs : List Json) :
    prettyChars level (.array vs) = '[' :: block level ']' (vs.map (prettyChars (level + 1))) := by
  cases vs with
  | nil => simp [prettyChars, block]
  | cons v vs => simp [prettyChars, block, prettyElements_cons]

def memberLine (key : String) (text : List Char) : List Char :=
  writeString key ++ [':', ' '] ++ text

theorem prettyMembers_cons (level : Nat) (m : String × Json) (ms : List (String × Json)) :
    prettyMembers level (m :: ms) = newLine level ++ memberLine m.1 (prettyChars level m.2) ++
      later level (ms.map fun m => memberLine m.1 (prettyChars level m.2)) := by
  induction ms generalizing m with
  | nil => simp [prettyMembers, memberLine, later]
  | cons n ms ih => simp [prettyMembers, memberLine, ih, later_cons]

theorem prettyChars_object (level : Nat) (ms : List (String × Json)) :
    prettyChars level (.object ms) =
      '{' :: block level '}' (ms.map fun m => memberLine m.1 (prettyChars (level + 1) m.2)) := by
  cases ms with
  | nil => simp [prettyChars, block]
  | cons m ms => simp [prettyChars, block, prettyMembers_cons]

/-- The first character of an element; it is neither a blank nor the closing bracket. -/
def Opens : List Char → Prop
  | [] => False
  | c :: _ => isBlank c = false ∧ c ≠ ']'

/-- The reader takes the text for the value, whatever follows the text. -/
structure Reads (reader : Reader ε α) (text : List Char) (x : α) : Prop where
  opens : Opens text
  reads : ∀ rest, EndsNumeral rest → reader (text ++ rest) = .ok (x, rest)

theorem Opens.eq_cons {text : List Char} (h : Opens text) (rest : List Char) :
    ∃ c cs, text ++ rest = c :: cs ∧ isBlank c = false ∧ c ≠ ']' := by
  cases text with
  | nil => exact h.elim
  | cons c cs => exact ⟨c, cs ++ rest, rfl, h.1, h.2⟩

theorem endsNumeral_newLine (level : Nat) (rest : List Char) :
    EndsNumeral (newLine level ++ rest) := by
  refine ⟨by decide, by decide, by decide, by decide⟩

theorem endsNumeral_comma (rest : List Char) : EndsNumeral (',' :: rest) := by
  refine ⟨by decide, by decide, by decide, by decide⟩

/-- What follows a line is a comma or a line break. -/
theorem endsNumeral_later (inner level : Nat) (texts : List (List Char)) (rest : List Char) :
    EndsNumeral (later inner texts ++ (newLine level ++ rest)) := by
  cases texts with
  | nil => exact endsNumeral_newLine level rest
  | cons text texts => exact endsNumeral_comma _

section Lists

variable {raise : Fault → ε} {element : Reader ε α} {steps : Nat} {cs ds rest more : List Char}
  {x : α} {xs : List α}

theorem elementsFrom_close (hClose : skipBlanks cs = ']' :: rest) (first : Bool) :
    elementsFrom raise element (steps + 1) first cs = .ok ([], rest) := by
  rw [elementsFrom, hClose]
  rfl

theorem elementsFrom_first {c : Char} (hHead : skipBlanks cs = c :: ds) (hc : c ≠ ']')
    (hElement : element (c :: ds) = .ok (x, more))
    (hMore : elementsFrom raise element steps false more = .ok (xs, rest)) :
    elementsFrom raise element (steps + 1) true cs = .ok (x :: xs, rest) := by
  rw [elementsFrom, hHead]
  simp only [if_neg hc, if_true, hElement, ok_bind, hMore, pure_eq_ok]

theorem elementsFrom_next {c : Char} (hComma : skipBlanks cs = ',' :: more)
    (hHead : skipBlanks more = c :: ds) (hc : c ≠ ']') {behind : List Char}
    (hElement : element (c :: ds) = .ok (x, behind))
    (hMore : elementsFrom raise element steps false behind = .ok (xs, rest)) :
    elementsFrom raise element (steps + 1) false cs = .ok (x :: xs, rest) := by
  rw [elementsFrom, hComma]
  simp only [hHead, if_neg hc, hElement, ok_bind, hMore, pure_eq_ok]
  rfl

theorem elementsFrom_later {text : α → List Char} (inner level : Nat)
    (h : ∀ x ∈ xs, Reads element (text x) x) (hSteps : xs.length < steps) (rest : List Char) :
    elementsFrom raise element steps false
      (later inner (xs.map text) ++ (newLine level ++ ']' :: rest)) = .ok (xs, rest) := by
  induction xs generalizing steps with
  | nil =>
    obtain ⟨steps, rfl⟩ := Nat.exists_eq_succ_of_ne_zero (Nat.ne_of_gt hSteps)
    apply elementsFrom_close
    exact skipBlanks_newLine level _
  | cons x xs ih =>
    obtain ⟨steps, rfl⟩ := Nat.exists_eq_succ_of_ne_zero (Nat.ne_of_gt (Nat.zero_lt_of_lt hSteps))
    have hx := h x List.mem_cons_self
    have hRead := hx.reads _ (endsNumeral_later inner level (xs.map text) (']' :: rest))
    obtain ⟨c, cs, hText, hBlank, hc⟩ := hx.opens.eq_cons
      (later inner (xs.map text) ++ (newLine level ++ ']' :: rest))
    rw [hText] at hRead
    rw [List.map_cons, later_cons, List.append_assoc, List.append_assoc, hText]
    refine elementsFrom_next rfl ?_ hc hRead
      (ih (fun y hy => h y (List.mem_cons_of_mem _ hy)) (Nat.lt_of_succ_lt_succ hSteps))
    rw [List.append_eq, skipBlanks_newLine, skipBlanks_cons hBlank]

/-- A list is read back by a reader that reads back its elements. -/
theorem elements_block {text : α → List Char} (level : Nat)
    (h : ∀ x ∈ xs, Reads element (text x) x) (rest : List Char) :
    elements raise element (block level ']' (xs.map text) ++ rest) = .ok (xs, rest) := by
  have hLength := length_lt_block level ']' (xs.map text)
  rw [List.length_map] at hLength
  cases xs with
  | nil => rfl
  | cons x xs =>
    have hx := h x List.mem_cons_self
    have hRead := hx.reads _ (endsNumeral_later (level + 1) level (xs.map text) (']' :: rest))
    obtain ⟨c, cs, hText, hBlank, hc⟩ := hx.opens.eq_cons
      (later (level + 1) (xs.map text) ++ (newLine level ++ ']' :: rest))
    rw [hText] at hRead
    refine elementsFrom_first ?_ hc hRead
      (elementsFrom_later (level + 1) level (fun y hy => h y (List.mem_cons_of_mem _ hy)) ?_ rest)
    · simp only [List.map_cons, block, List.append_assoc, List.cons_append, List.nil_append]
      rw [skipBlanks_newLine, hText, skipBlanks_cons hBlank]
    · simp only [List.length_append, List.length_cons] at hLength ⊢
      omega

end Lists

/-- A member with the text of its value and what is to be read from it. -/
structure Entry (α : Type) where
  key : String
  text : List Char
  content : α

def Entry.line (e : Entry α) : List Char := memberLine e.key e.text

/-- The reader reads back every member, given the keys in front of it. -/
def ReadsMembers (member : List String → String → Reader ε α) : List String → List (Entry α) → Prop
  | _, [] => True
  | seen, e :: es =>
    (∀ rest, EndsNumeral rest →
      member seen e.key (':' :: ' ' :: (e.text ++ rest)) = .ok (e.content, rest)) ∧
    ReadsMembers member (e.key :: seen) es

theorem memberLine_append (key : String) (text rest : List Char) :
    memberLine key text ++ rest =
      '"' :: (key.toList.flatMap writeChar ++ '"' :: ':' :: ' ' :: (text ++ rest)) := by
  simp [memberLine, writeString]

section Objects

variable {raise : Fault → ε} {member : List String → String → Reader ε α} {steps : Nat}
  {seen : List String} {cs rest more : List Char} {key : String} {x : α} {xs : List α}

theorem membersFrom_close (hClose : skipBlanks cs = '}' :: rest) (first : Bool) :
    membersFrom raise member (steps + 1) first seen cs = .ok ([], rest) := by
  rw [membersFrom, hClose]
  rfl

theorem membersFrom_first {text behind : List Char}
    (hHead : skipBlanks cs = memberLine key text ++ more)
    (hMember : member seen key (':' :: ' ' :: (text ++ more)) = .ok (x, behind))
    (hMore : membersFrom raise member steps false (key :: seen) behind = .ok (xs, rest)) :
    membersFrom raise member (steps + 1) true seen cs = .ok (x :: xs, rest) := by
  rw [membersFrom, hHead, memberLine_append]
  simp only [quoted_writeString, mapError_ok, ok_bind, hMember, hMore, pure_eq_ok]
  rfl

theorem membersFrom_next {text behind ds : List Char} (hComma : skipBlanks cs = ',' :: ds)
    (hHead : skipBlanks ds = memberLine key text ++ more)
    (hMember : member seen key (':' :: ' ' :: (text ++ more)) = .ok (x, behind))
    (hMore : membersFrom raise member steps false (key :: seen) behind = .ok (xs, rest)) :
    membersFrom raise member (steps + 1) false seen cs = .ok (x :: xs, rest) := by
  rw [membersFrom, hComma]
  simp only [hHead, memberLine_append, quoted_writeString, mapError_ok, ok_bind, hMember, hMore,
    pure_eq_ok]
  rfl

theorem skipBlanks_memberLine (key : String) (text rest : List Char) :
    skipBlanks (memberLine key text ++ rest) = memberLine key text ++ rest := by
  rw [memberLine_append]
  exact skipBlanks_cons rfl _

theorem membersFrom_later (inner level : Nat) {es : List (Entry α)}
    (h : ReadsMembers member seen es) (hSteps : es.length < steps) (rest : List Char) :
    membersFrom raise member steps false seen
      (later inner (es.map Entry.line) ++ (newLine level ++ '}' :: rest)) =
        .ok (es.map Entry.content, rest) := by
  induction es generalizing steps seen with
  | nil =>
    obtain ⟨steps, rfl⟩ := Nat.exists_eq_succ_of_ne_zero (Nat.ne_of_gt hSteps)
    apply membersFrom_close
    exact skipBlanks_newLine level _
  | cons e es ih =>
    obtain ⟨steps, rfl⟩ := Nat.exists_eq_succ_of_ne_zero (Nat.ne_of_gt (Nat.zero_lt_of_lt hSteps))
    have hRead := h.1 _ (endsNumeral_later inner level (es.map Entry.line) ('}' :: rest))
    rw [List.map_cons, later_cons, List.append_assoc, List.append_assoc]
    refine membersFrom_next rfl ?_ hRead (ih h.2 (Nat.lt_of_succ_lt_succ hSteps))
    rw [List.append_eq, skipBlanks_newLine]
    exact skipBlanks_memberLine e.key e.text _

/-- An object is read back by a reader that reads back its members. -/
theorem members_block (level : Nat) {es : List (Entry α)} (h : ReadsMembers member [] es)
    (rest : List Char) :
    members raise member (block level '}' (es.map Entry.line) ++ rest) =
      .ok (es.map Entry.content, rest) := by
  have hLength := length_lt_block level '}' (es.map Entry.line)
  rw [List.length_map] at hLength
  cases es with
  | nil => rfl
  | cons e es =>
    have hRead := h.1 _ (endsNumeral_later (level + 1) level (es.map Entry.line) ('}' :: rest))
    refine membersFrom_first ?_ hRead (membersFrom_later (level + 1) level h.2 ?_ rest)
    · simp only [List.map_cons, block, List.append_assoc, List.cons_append, List.nil_append]
      rw [skipBlanks_newLine]
      exact skipBlanks_memberLine e.key e.text _
    · simp only [List.length_append, List.length_cons] at hLength ⊢
      omega

end Objects

mutual

/-- The number of lists and objects that enclose one another. -/
def depth : Json → Nat
  | array vs => depthAll vs + 1
  | object ms => depthMembers ms + 1
  | null | bool _ | number _ | string _ => 0

def depthAll : List Json → Nat
  | [] => 0
  | v :: vs => max v.depth (depthAll vs)

def depthMembers : List (String × Json) → Nat
  | [] => 0
  | (_, v) :: ms => max v.depth (depthMembers ms)

end

mutual

/-- Every number reads back from its text. -/
def Legible : Json → Prop
  | number n => numeral (writeNumber n) = .ok (n, [])
  | array vs => LegibleAll vs
  | object ms => LegibleMembers ms
  | null | bool _ | string _ => True

def LegibleAll : List Json → Prop
  | [] => True
  | v :: vs => v.Legible ∧ LegibleAll vs

def LegibleMembers : List (String × Json) → Prop
  | [] => True
  | (_, v) :: ms => v.Legible ∧ LegibleMembers ms

end

section Values

variable {rest : List Char}

theorem value_space (depth : Nat) (cs : List Char) : value depth (' ' :: cs) = value depth cs := by
  cases depth <;> rfl

theorem value_eq_scalar (depth : Nat) {c : Char} (cs : List Char) (hBlank : isBlank c = false)
    (hList : c ≠ '[') (hObject : c ≠ '{') : value depth (c :: cs) = scalar (c :: cs) := by
  cases depth with
  | zero => simp [value, skipBlanks_cons hBlank, hList, hObject]
  | succ depth => simp [value, skipBlanks_cons hBlank, hList, hObject]

theorem numeral_head {cs : List Char} {r : Number × List Char} (h : numeral cs = .ok r) :
    ∃ c ds, cs = c :: ds ∧ (c = '-' ∨ c.isDigit = true) := by
  cases cs with
  | nil => cases h
  | cons c cs =>
    rcases Decidable.em (c = '-' ∨ c.isDigit = true) with hc | hc
    · exact ⟨c, cs, rfl, hc⟩
    rw [not_or] at hc
    have hZero : c ≠ '0' := by
      rintro rfl
      exact hc.2 rfl
    simp [numeral, unsignedNumeral, hc.1, hc.2, hZero] at h

/-- A character that begins a numeral begins nothing else. -/
theorem numeral_head_ne {c : Char} (h : c = '-' ∨ c.isDigit = true) :
    isBlank c = false ∧ c ≠ ']' ∧ c ≠ '[' ∧ c ≠ '{' ∧ c ≠ 'n' ∧ c ≠ 't' ∧ c ≠ 'f' ∧ c ≠ '"' := by
  have hBlank : ¬ isBlank c = true := by
    intro hBlank
    simp only [isBlank, Bool.or_eq_true, decide_eq_true_eq] at hBlank
    rcases hBlank with ((rfl | rfl) | rfl) | rfl <;> revert h <;> decide
  refine ⟨by simpa using hBlank, ?_, ?_, ?_, ?_, ?_, ?_, ?_⟩ <;>
    (rintro rfl; revert h; decide)

theorem value_number (depth : Nat) {n : Number} (h : numeral (writeNumber n) = .ok (n, [])) :
    Reads (value depth) (writeNumber n) (.number n) := by
  obtain ⟨c, cs, hText, hc⟩ := numeral_head h
  obtain ⟨hBlank, hClose, hList, hObject, hn, ht, hf, hq⟩ := numeral_head_ne hc
  rw [hText] at h ⊢
  refine ⟨⟨hBlank, hClose⟩, ?_⟩
  intro rest hRest
  have hRead := numeral_append hRest h
  rw [List.cons_append] at hRead ⊢
  have hStart : (c = '-' || c.isDigit) = true := by simpa using hc
  rw [value_eq_scalar depth _ hBlank hList hObject, scalar, if_neg hn, if_neg ht, if_neg hf,
    if_neg hq, if_pos hStart, hRead]
  rfl

theorem value_string (depth : Nat) (s : String) :
    Reads (value depth) (writeString s) (.string s) := by
  refine ⟨⟨rfl, by decide⟩, ?_⟩
  intro rest _
  have hText : writeString s ++ rest = '"' :: (s.toList.flatMap writeChar ++ '"' :: rest) := by
    simp [writeString]
  rw [hText, value_eq_scalar depth _ rfl (by decide) (by decide)]
  simp only [scalar, quoted_writeString, ok_bind, pure_eq_ok]
  rfl

theorem value_bool (depth : Nat) (b : Bool) : Reads (value depth) (writeBool b) (.bool b) := by
  cases b with
  | false => exact ⟨⟨rfl, by decide⟩, fun rest _ => by cases depth <;> rfl⟩
  | true => exact ⟨⟨rfl, by decide⟩, fun rest _ => by cases depth <;> rfl⟩

theorem value_null (depth : Nat) : Reads (value depth) ['n', 'u', 'l', 'l'] .null :=
  ⟨⟨rfl, by decide⟩, fun rest _ => by cases depth <;> rfl⟩

theorem value_array (depth level : Nat) {vs : List Json}
    (h : ∀ v ∈ vs, Reads (value depth) (prettyChars (level + 1) v) v) :
    Reads (value (depth + 1)) (prettyChars level (.array vs)) (.array vs) := by
  rw [prettyChars_array]
  refine ⟨⟨rfl, by decide⟩, ?_⟩
  intro rest _
  rw [List.cons_append, value, skipBlanks_cons rfl]
  simp only [elements_block level h rest, ok_bind, pure_eq_ok]

/-- Reads a member of an object inside a document. -/
def documentMember (depth : Nat) (_ : List String) (key : String) : Reader Fault (String × Json) :=
  fun cs => do
    let (_, rest) ← colon cs
    let (v, rest) ← value depth rest
    return ((key, v), rest)

theorem value_brace (depth : Nat) (cs : List Char) :
    value (depth + 1) ('{' :: cs) =
      (members id (documentMember depth) cs >>= fun r => .ok (.object r.1, r.2)) := rfl

theorem colon_cons (cs : List Char) : colon (':' :: cs) = .ok ((), cs) := rfl

/-- The entry of a member whose value is read as a document. -/
def documentEntry (level : Nat) (m : String × Json) : Entry (String × Json) :=
  ⟨m.1, prettyChars level m.2, m⟩

theorem readsMembers_document (depth level : Nat) {ms : List (String × Json)}
    (h : ∀ m ∈ ms, Reads (value depth) (prettyChars level m.2) m.2) (seen : List String) :
    ReadsMembers (documentMember depth) seen (ms.map (documentEntry level)) := by
  induction ms generalizing seen with
  | nil => trivial
  | cons m ms ih =>
    refine ⟨?_, ih (fun n hn => h n (List.mem_cons_of_mem _ hn)) _⟩
    intro rest hRest
    have hRead := (h m List.mem_cons_self).reads rest hRest
    simp only [documentMember, documentEntry, colon_cons, ok_bind, value_space, hRead, pure_eq_ok]

theorem value_object (depth level : Nat) {ms : List (String × Json)}
    (h : ∀ m ∈ ms, Reads (value depth) (prettyChars (level + 1) m.2) m.2) :
    Reads (value (depth + 1)) (prettyChars level (.object ms)) (.object ms) := by
  have hLines : (ms.map fun m => memberLine m.1 (prettyChars (level + 1) m.2)) =
      (ms.map (documentEntry (level + 1))).map Entry.line := by
    rw [List.map_map]
    rfl
  have hContents : (ms.map (documentEntry (level + 1))).map Entry.content = ms := by
    rw [List.map_map]
    exact List.map_id ms
  rw [prettyChars_object, hLines]
  refine ⟨⟨rfl, by decide⟩, ?_⟩
  intro rest _
  rw [List.cons_append, value_brace,
    members_block level (readsMembers_document depth (level + 1) h []) rest, hContents]
  rfl

end Values

mutual

/-- A document whose numbers read back reads back, if it does not nest too deep. -/
theorem value_pretty : ∀ (v : Json) (depth level : Nat), v.depth ≤ depth → v.Legible →
    Reads (value depth) (prettyChars level v) v
  | .null, depth, _, _, _ => value_null depth
  | .bool b, depth, _, _, _ => value_bool depth b
  | .number _, depth, _, _, hLegible => value_number depth hLegible
  | .string s, depth, _, _, _ => value_string depth s
  | .array vs, 0, _, hDepth, _ => by simp [Json.depth] at hDepth
  | .array vs, depth + 1, level, hDepth, hLegible =>
    value_array depth level
      (value_prettyAll vs depth (level + 1) (Nat.le_of_succ_le_succ hDepth) hLegible)
  | .object ms, 0, _, hDepth, _ => by simp [Json.depth] at hDepth
  | .object ms, depth + 1, level, hDepth, hLegible =>
    value_object depth level
      (value_prettyMembers ms depth (level + 1) (Nat.le_of_succ_le_succ hDepth) hLegible)

theorem value_prettyAll : ∀ (vs : List Json) (depth level : Nat), depthAll vs ≤ depth →
    LegibleAll vs → ∀ v ∈ vs, Reads (value depth) (prettyChars level v) v
  | [], _, _, _, _ => by simp
  | v :: vs, depth, level, hDepth, hLegible => by
    rw [depthAll, Nat.max_le] at hDepth
    intro w hw
    rcases List.mem_cons.mp hw with hEq | hw
    · rw [hEq]
      exact value_pretty v depth level hDepth.1 hLegible.1
    · exact value_prettyAll vs depth level hDepth.2 hLegible.2 w hw

theorem value_prettyMembers : ∀ (ms : List (String × Json)) (depth level : Nat),
    depthMembers ms ≤ depth → LegibleMembers ms →
    ∀ m ∈ ms, Reads (value depth) (prettyChars level m.2) m.2
  | [], _, _, _, _ => by simp
  | (key, v) :: ms, depth, level, hDepth, hLegible => by
    rw [depthMembers, Nat.max_le] at hDepth
    intro m hm
    rcases List.mem_cons.mp hm with hEq | hm
    · rw [hEq]
      exact value_pretty v depth level hDepth.1 hLegible.1
    · exact value_prettyMembers ms depth level hDepth.2 hLegible.2 m hm

end

mutual

/-- The text of a document has room for all its brackets. -/
theorem depth_le_length : ∀ (v : Json) (level : Nat), v.depth ≤ (prettyChars level v).length
  | .null, _ | .bool _, _ | .number _, _ | .string _, _ => Nat.zero_le _
  | .array [], _ | .object [], _ => by simp [depth, depthAll, depthMembers, prettyChars]
  | .array (v :: vs), level => by
    have hInner := depthAll_le_length (v :: vs) (level + 1)
    rw [prettyChars, depth]
    simp only [List.length_append, List.length_cons]
    omega
  | .object (m :: ms), level => by
    have hInner := depthMembers_le_length (m :: ms) (level + 1)
    rw [prettyChars, depth]
    simp only [List.length_append, List.length_cons]
    omega

theorem depthAll_le_length : ∀ (vs : List Json) (level : Nat),
    depthAll vs ≤ (prettyElements level vs).length
  | [], _ => Nat.zero_le _
  | v :: vs, level => by
    have hFirst := depth_le_length v level
    have hRest := depthAll_le_length vs level
    cases vs with
    | nil =>
      simp only [prettyElements, depthAll, List.length_append]
      omega
    | cons w vs =>
      simp only [prettyElements, List.length_append, List.length_cons]
      rw [depthAll]
      omega

theorem depthMembers_le_length : ∀ (ms : List (String × Json)) (level : Nat),
    depthMembers ms ≤ (prettyMembers level ms).length
  | [], _ => Nat.zero_le _
  | (key, v) :: ms, level => by
    have hFirst := depth_le_length v level
    have hRest := depthMembers_le_length ms level
    cases ms with
    | nil =>
      simp only [prettyMembers, depthMembers, List.length_append]
      omega
    | cons m ms =>
      simp only [prettyMembers, List.length_append, List.length_cons]
      rw [depthMembers]
      omega

end

end ServiceCompiler.Json
