import ServiceCompiler.Proofs.Plan.Spelling
import ServiceCompiler.Proofs.Source.Emission
import ServiceCompiler.Target.RustBody

/-! # Phrases in Rust texts

Names, literals, terms and calls that are spelled without `.await` and without the text of a response
on the wire. A response ends in a parenthesis, so texts are looked at with a parenthesis behind
them. -/

namespace ServiceCompiler.Rust

open ServiceCompiler.Core (Expr Node Field)
open Plan (Access Check)
open Text (Avoids Mentions Phrase join doubleQuoted)
open Text.Phrase (Segment Filled spell clear_template clear_fixed)

def awaiting : Phrase := ⟨".await", _, rfl, none, by decide⟩

/-- The text of a response on the wire. -/
def wire : Phrase := ⟨"into_response()", _, rfl, some ')', by decide⟩

def phrases : List Phrase := [awaiting, wire]

variable {p : Phrase}

theorem wordy_of_mem (hp : p ∈ phrases) : p.Wordy :=
  (by decide : ∀ q ∈ phrases, q.Wordy) p hp

theorem clear_doubleQuoted (hp : p ∈ phrases) {s : String} (h : ¬ Mentions p.text s) :
    p.Clear (doubleQuoted s) :=
  Text.Phrase.clear_quote ((by decide : ∀ q ∈ phrases, q.Quotable '"') p hp) h

theorem clear_list (hp : p ∈ phrases) {ts : List String} (h : ∀ t ∈ ts, p.Clear t) :
    p.Clear (join ", " ts) :=
  Text.Phrase.clear_join ((by decide : ∀ q ∈ phrases, q.Separates ", ") p hp) h

theorem clear_of_avoids (hp : p ∈ phrases) {t : String} (hPoint : Avoids '.' t)
    (hLetter : Avoids 'p' t) : p.Clear t := by
  simp only [phrases, List.mem_cons, List.not_mem_nil, or_false] at hp
  rcases hp with rfl | rfl
  · exact Text.Phrase.clear_of_not_mem (by decide : '.' ∈ awaiting.chars) hPoint (by decide)
  · exact Text.Phrase.clear_of_not_mem (by decide : 'p' ∈ wire.chars) hLetter (by decide)

/-! ## Names -/

theorem clear_ident (hp : p ∈ phrases) {name : String} (h : p.Clear name) : p.Clear (ident name) := by
  unfold ident
  split
  · rename_i hReserved
    have hAll := (by decide : ∀ q ∈ phrases, ∀ x ∈ reserved, q.Clear (x ++ "_")) p hp
    exact hAll name (List.contains_iff_mem.mp hReserved)
  · split
    · exact clear_template hp [.lit _, .arg name] rfl ⟨h, trivial⟩
    · exact h

theorem clear_identCall (hp : p ∈ phrases) {name : String} (h : p.Clear (name ++ "(")) :
    p.Clear (ident name ++ "(") := by
  unfold ident
  split
  · rename_i hReserved
    have hAll := (by decide : ∀ q ∈ phrases, ∀ x ∈ reserved, q.Clear (x ++ "_" ++ "(")) p hp
    exact hAll name (List.contains_iff_mem.mp hReserved)
  · split
    · have hText : s!"r#{name}" ++ "(" = spell [.lit _, .arg (name ++ "(")] :=
        String.append_assoc ..
      rw [hText]
      exact clear_template hp _ rfl ⟨h, trivial⟩
    · exact h

theorem clear_of_called {name : String} (h : p.Clear (name ++ "(")) : ¬ Mentions p.text name := by
  refine Text.Phrase.free_iff_not_mentions.mp (h.free.inside ?_)
  rw [String.toList_append]
  exact (List.prefix_append _ _).isInfix

theorem clear_call (hp : p ∈ phrases) {callee inner : String} (hCallee : p.Clear (callee ++ "("))
    (hInner : p.Clear inner) : p.Clear (callee ++ "(" ++ inner ++ ")") :=
  Text.Phrase.clear_called ((by decide : ∀ q ∈ phrases, q.Opens) p hp)
    ((by decide : ∀ q ∈ phrases, q.fits false [.lit [')']] = true) p hp) hCallee hInner

/-! ## Literals and terms -/

theorem clear_json (hp : p ∈ phrases) {t : String} (h : p.Clear t) : p.Clear (json t) :=
  clear_template hp [.lit _, .arg t, .lit _] rfl ⟨h, trivial⟩

theorem clear_floatText (hp : p ∈ phrases) (x : Float) : p.Clear (floatText x) := by
  unfold floatText
  split
  · exact clear_json hp (Text.Phrase.clear_render (wordy_of_mem hp) _ x)
  · exact clear_fixed hp rfl

theorem clear_boolText (hp : p ∈ phrases) (b : Bool) : p.Clear (toString b) := by
  cases b <;> exact clear_fixed hp rfl

theorem clear_literalText (hp : p ∈ phrases) (value : Literal)
    (h : ∀ s ∈ value.strings, ¬ Mentions p.text s) : p.Clear (literalText value) := by
  cases value with
  | int n => exact clear_json hp (Text.Phrase.clear_int (wordy_of_mem hp) n.toInt)
  | float x => exact clear_floatText hp x
  | string s => exact clear_json hp (clear_doubleQuoted hp (h s List.mem_cons_self))
  | bool b => exact clear_json hp (clear_boolText hp b)
  | null => exact clear_fixed hp rfl

theorem clear_objectText (hp : p ∈ phrases) {ts : List String} (h : ∀ t ∈ ts, p.Clear t) :
    p.Clear (objectText ts) := by
  refine clear_json hp ?_
  split
  · exact clear_fixed hp rfl
  · exact clear_template hp [.lit _, .arg (join ", " ts), .lit _] rfl
      ⟨clear_list hp h, trivial⟩

/-- The phrase is not in the text of a term. -/
def Clean (p : Phrase) : Term → Prop
  | .place name => p.Clear name
  | .value text => p.Clear text
  | .condition text => p.Clear text

variable {t : Term}

theorem Clean.owned (hp : p ∈ phrases) (h : Clean p t) : p.Clear t.owned := by
  cases t with
  | place name => exact clear_template hp [.arg name, .lit _] rfl ⟨h, trivial⟩
  | value text => exact h
  | condition text => exact clear_json hp h

theorem Clean.borrowed (hp : p ∈ phrases) (h : Clean p t) : p.Clear t.borrowed := by
  cases t with
  | place name => exact clear_template hp [.lit _, .arg name] rfl ⟨h, trivial⟩
  | value text => exact clear_template hp [.lit _, .arg text] rfl ⟨h, trivial⟩
  | condition text =>
    exact clear_template hp [.lit _, .arg (json text)] rfl ⟨clear_json hp h, trivial⟩

theorem Clean.tested (hp : p ∈ phrases) (h : Clean p t) : p.Clear t.tested := by
  have hBorrowed := h.borrowed hp
  cases t with
  | condition text => exact h
  | place name | value text =>
    exact clear_template hp [.lit _, .arg _, .lit _] rfl ⟨hBorrowed, trivial⟩

theorem Clean.atom (hp : p ∈ phrases) (h : Clean p t) : p.Clear t.atom := by
  have hTested := h.tested hp
  unfold Term.atom
  dsimp only
  split
  · exact clear_template hp [.lit _, .arg t.tested, .lit _] rfl ⟨hTested, trivial⟩
  · exact hTested

theorem clean_binaryTerm (hp : p ∈ phrases) (op : BinaryOp) {left right : Term}
    (hLeft : Clean p left) (hRight : Clean p right) : Clean p (binaryTerm op left right) := by
  have hBorrowed := And.intro (hLeft.borrowed hp) (And.intro (hRight.borrowed hp) trivial)
  have hOwned := And.intro (hLeft.owned hp) (And.intro (hRight.owned hp) trivial)
  have hTested := And.intro (hLeft.tested hp) (And.intro (hRight.tested hp) trivial)
  cases op
  case eq | ne => exact clear_template hp [.arg _, .lit _, .lit _, .lit _, .arg _] rfl hOwned
  case and | or =>
    exact clear_template hp [.lit _, .arg _, .lit _, .lit _, .lit _, .arg _, .lit _] rfl hTested
  all_goals
    exact clear_template hp [.lit _, .lit _, .lit _, .arg _, .lit _, .arg _, .lit _] rfl hBorrowed

/-! ## Matches -/

theorem subjectAt_snoc (path : List Access) (step : Access) :
    subjectAt (path ++ [step]) = accessText (subjectAt path) step := by
  rw [subjectAt, List.foldl_append, List.foldl_cons, List.foldl_nil, subjectAt]

theorem clear_subjectAt (hp : p ∈ phrases) {path : List Access}
    (h : ∀ x ∈ Plan.pathNames path, p.Clear x) : p.Clear (subjectAt path) := by
  induction path using List.reverseRecOn with
  | nil => exact clear_fixed hp rfl
  | append_singleton path step ih =>
    simp only [Plan.pathNames, List.flatMap_append, List.flatMap_singleton,
      List.forall_mem_append] at h
    have hPath := ih h.1
    have hNumber (i : Nat) : p.Clear (toString i) := Text.Phrase.clear_nat (wordy_of_mem hp) i
    rw [subjectAt_snoc]
    cases step with
    | key name =>
      have hName := clear_doubleQuoted hp (h.2 name List.mem_cons_self).not_mentions
      exact clear_template hp [.arg (subjectAt path), .lit _, .arg (doubleQuoted name), .lit _]
        rfl ⟨hPath, hName, trivial⟩
    | index i =>
      exact clear_template hp [.arg (subjectAt path), .lit _, .arg (toString i), .lit _] rfl
        ⟨hPath, hNumber i, trivial⟩
    | restFrom i =>
      exact clear_template hp [.lit _, .arg (subjectAt path), .lit _,
        .arg (toString i), .lit _] rfl ⟨hPath, hNumber i, trivial⟩

theorem clear_boundText (hp : p ∈ phrases) {path : List Access}
    (h : ∀ x ∈ Plan.pathNames path, p.Clear x) : p.Clear (boundText path) := by
  have hPath := clear_subjectAt hp h
  unfold boundText
  split
  · exact clear_template hp [.arg (subjectAt path), .lit _] rfl ⟨hPath, trivial⟩
  · exact hPath

theorem clear_checkText (hp : p ∈ phrases) {c : Check} (hNames : ∀ x ∈ c.names, p.Clear x)
    (hStrings : ∀ s ∈ c.strings, ¬ Mentions p.text s) : p.Clear (checkText c) := by
  cases c with
  | isObject path =>
    exact clear_template hp [.arg (subjectAt path), .lit _] rfl
      ⟨clear_subjectAt hp hNames, trivial⟩
  | hasKey path key =>
    obtain ⟨hKey, hPath⟩ := List.forall_mem_cons.mp hNames
    exact clear_template hp [.arg (subjectAt path), .lit _, .arg (doubleQuoted key),
      .lit _] rfl
      ⟨clear_subjectAt hp hPath, clear_doubleQuoted hp hKey.not_mentions, trivial⟩
  | arrayLength path length exact =>
    have hOp : p.Clear (if exact then "==" else ">=") := by split <;> exact clear_fixed hp rfl
    exact clear_template hp [.arg (subjectAt path),
      .lit _, .arg (if exact then "==" else ">="),
      .lit _, .arg (toString length), .lit _] rfl
      ⟨clear_subjectAt hp hNames, hOp, Text.Phrase.clear_nat (wordy_of_mem hp) length, trivial⟩
  | equals path value =>
    exact clear_template hp [.arg (subjectAt path), .lit _, .arg (literalText value)] rfl
      ⟨clear_subjectAt hp hNames, clear_literalText hp value hStrings, trivial⟩

end ServiceCompiler.Rust
