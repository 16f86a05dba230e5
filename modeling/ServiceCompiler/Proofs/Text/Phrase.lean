import Mathlib.Data.List.Infix
import ServiceCompiler.Decimal.Layout
import ServiceCompiler.Text.Quoted
import ServiceCompiler.Text.Split

/-! # Looking for a phrase in composed texts

Generated texts are composed of fixed pieces and of texts filled in between. Whether a phrase can
arise in the whole depends on the fixed pieces alone, as long as it stands in none of the texts that
are filled in: no fixed piece may hold it, and between two texts there must be a piece that no
occurrence of the phrase can reach over. -/

namespace ServiceCompiler.Text

def Mentions (phrase text : String) : Prop := phrase.toList <:+: text.toList

instance (phrase text : String) : Decidable (Mentions phrase text) :=
  inferInstanceAs (Decidable (_ <:+: _))

/-- A phrase to look for, with its characters. Texts are looked at together with the closing
character, if there is one, so that it can follow them without completing the phrase. -/
structure Phrase where
  text : String
  chars : List Char
  text_eq : text = String.ofList chars
  closer : Option Char
  proper : ¬ chars <:+: closer.toList

namespace Phrase

/-- Whether a text stands in another one. -/
def occurs (cs : List Char) : List Char → Bool
  | [] => cs.isEmpty
  | d :: ds => cs.isPrefixOf (d :: ds) || occurs cs ds

theorem occurs_iff {cs ds : List Char} : occurs cs ds = true ↔ cs <:+: ds := by
  induction ds with
  | nil => simp [occurs]
  | cons d ds ih =>
    rw [occurs, Bool.or_eq_true, List.isPrefixOf_iff_prefix, ih, List.infix_cons_iff]

variable (p : Phrase)

@[simp] theorem toList_text : p.text.toList = p.chars := by
  rw [p.text_eq, String.toList_ofList]

def Free (cs : List Char) : Prop := ¬ p.chars <:+: cs

instance (cs : List Char) : Decidable (p.Free cs) :=
  decidable_of_iff (occurs p.chars cs = false) (by rw [Free, ← occurs_iff, Bool.not_eq_true])

/-- The phrase does not stand in the text, even if it is closed. -/
def Clear (t : String) : Prop := p.Free (t.toList ++ p.closer.toList)

instance (t : String) : Decidable (p.Clear t) := inferInstanceAs (Decidable (p.Free _))

/-- The ways to cut the phrase into two parts. -/
def splits : List (List Char × List Char) :=
  ((List.range p.chars.length).drop 1).map fun i => (p.chars.take i, p.chars.drop i)

/-- No beginning of the phrase is at the end of the text. -/
def Ended (cs : List Char) : Prop := ∀ s ∈ p.splits, ¬ s.1 <:+ cs

/-- No end of the phrase, but the closer, can stand at the beginning of the text. -/
def Blocks (cs : List Char) : Prop :=
  cs ≠ [] ∧ ∀ s ∈ p.splits, s.2 <+: p.closer.toList ∨ ¬ s.2 <+: cs ∧ ¬ cs <+: s.2

variable {p}

theorem mem_splits_iff {s : List Char × List Char} :
    s ∈ p.splits ↔ p.chars = s.1 ++ s.2 ∧ s.1 ≠ [] ∧ s.2 ≠ [] := by
  obtain ⟨u, v⟩ := s
  simp only [splits, List.mem_map, Prod.mk.injEq, List.mem_drop_iff_getElem, List.length_range,
    List.getElem_range]
  constructor
  · rintro ⟨i, ⟨j, hj, rfl⟩, rfl, rfl⟩
    refine ⟨(List.take_append_drop _ _).symm, ?_, ?_⟩
    · rw [← List.length_pos_iff, List.length_take]
      omega
    · rw [← List.length_pos_iff, List.length_drop]
      omega
  · rintro ⟨hText, hu, hv⟩
    have hU := List.length_pos_iff.mpr hu
    have hV := List.length_pos_iff.mpr hv
    have hLength := congrArg List.length hText
    rw [List.length_append] at hLength
    refine ⟨u.length, ⟨u.length - 1, by omega, by omega⟩, ?_, ?_⟩
    · rw [hText, List.take_left]
    · rw [hText, List.drop_left]

/-- Whether a beginning of the phrase, but not the whole, is at the end of the text. -/
def begins (phrase : List Char) : List Char → Bool
  | [] => false
  | d :: ds =>
    (d :: ds).isPrefixOf phrase && decide ((d :: ds).length < phrase.length) || begins phrase ds

theorem begins_iff {cs : List Char} : begins p.chars cs = true ↔ ∃ s ∈ p.splits, s.1 <:+ cs := by
  induction cs with
  | nil =>
    simp only [begins, List.suffix_nil, Bool.false_eq_true, false_iff, not_exists, not_and]
    exact fun s hs hNil => (mem_splits_iff.mp hs).2.1 hNil
  | cons d ds ih =>
    simp only [begins, Bool.or_eq_true, Bool.and_eq_true, List.isPrefixOf_iff_prefix,
      decide_eq_true_eq, ih, List.suffix_cons_iff]
    constructor
    · rintro (⟨⟨v, hText⟩, hShort⟩ | ⟨s, hs, hSuffix⟩)
      · refine ⟨(d :: ds, v), mem_splits_iff.mpr ⟨hText.symm, by simp, ?_⟩, .inl rfl⟩
        rintro rfl
        simp [← hText] at hShort
      · exact ⟨s, hs, .inr hSuffix⟩
    · rintro ⟨s, hs, hWhole | hSuffix⟩
      · obtain ⟨hText, -, hRest⟩ := mem_splits_iff.mp hs
        rw [hText, ← hWhole]
        have hPos := List.length_pos_iff.mpr hRest
        exact .inl ⟨List.prefix_append _ _, by rw [List.length_append]; omega⟩
      · exact .inr ⟨s, hs, hSuffix⟩

instance (cs : List Char) : Decidable (p.Ended cs) :=
  decidable_of_iff (begins p.chars cs = false) (by
    rw [← Bool.not_eq_true, begins_iff, Ended]
    simp only [not_exists, not_and])

/-- Whether no end of a text, but the closer, can stand at the beginning of another. -/
def bars (closer cs : List Char) : List Char → Bool
  | [] => true
  | v :: vs =>
    ((v :: vs).isPrefixOf closer || !(v :: vs).isPrefixOf cs && !cs.isPrefixOf (v :: vs)) &&
      bars closer cs vs

theorem bars_iff {closer cs vs : List Char} :
    bars closer cs vs = true ↔
      ∀ v ≠ [], v <:+ vs → v <+: closer ∨ ¬ v <+: cs ∧ ¬ cs <+: v := by
  induction vs with
  | nil =>
    simp only [bars, true_iff, List.suffix_nil]
    exact fun v hv hNil => absurd hNil hv
  | cons c vs ih =>
    simp only [bars, Bool.and_eq_true, Bool.or_eq_true, Bool.not_eq_true', List.suffix_cons_iff,
      List.isPrefixOf_iff_prefix, ← Bool.not_eq_true, ih]
    constructor
    · rintro ⟨hHere, hRest⟩ v hv (rfl | hSuffix)
      · exact hHere
      · exact hRest v hv hSuffix
    · exact fun h => ⟨h _ (by simp) (.inl rfl), fun v hv hSuffix => h v hv (.inr hSuffix)⟩

theorem suffix_tail_iff {v : List Char} (hv : v ≠ []) :
    v <:+ p.chars.tail ↔ ∃ s ∈ p.splits, s.2 = v := by
  constructor
  · rintro ⟨front, hTail⟩
    cases hChars : p.chars with
    | nil => exact absurd (hChars ▸ List.nil_infix) p.proper
    | cons c cs =>
      rw [hChars, List.tail_cons] at hTail
      exact ⟨(c :: front, v), mem_splits_iff.mpr ⟨by simp [hChars, hTail], by simp, hv⟩, rfl⟩
  · rintro ⟨⟨u, w⟩, hs, rfl⟩
    obtain ⟨hText, hU, -⟩ := mem_splits_iff.mp hs
    obtain ⟨c, front, rfl⟩ := List.exists_cons_of_ne_nil hU
    exact ⟨front, by simp [hText]⟩

instance (cs : List Char) : Decidable (p.Blocks cs) :=
  decidable_of_iff (cs ≠ [] ∧ bars p.closer.toList cs p.chars.tail = true) (by
    rw [bars_iff, Blocks]
    refine and_congr_right fun _ => ⟨fun h s hs => ?_, fun h v hv hSuffix => ?_⟩
    · have hRest := (mem_splits_iff.mp hs).2.2
      exact h s.2 hRest ((suffix_tail_iff hRest).mpr ⟨s, hs, rfl⟩)
    · obtain ⟨s, hs, rfl⟩ := (suffix_tail_iff hv).mp hSuffix
      exact h s hs)

theorem Free.inside {cs ds : List Char} (hFree : p.Free ds) (hInfix : cs <:+: ds) : p.Free cs :=
  fun hText => hFree (hText.trans hInfix)

theorem free_append {a b : List Char} (ha : p.Free a) (hb : p.Free b)
    (hCut : ∀ s ∈ p.splits, s.1 <:+ a → ¬ s.2 <+: b) : p.Free (a ++ b) := by
  intro hInfix
  rcases List.infix_append_iff.mp hInfix with h | h | ⟨u, v, hText, hu, hv⟩
  · exact ha h
  · exact hb h
  · rcases eq_or_ne u [] with rfl | hU
    · exact hb (hText ▸ hv.isInfix)
    · rcases eq_or_ne v [] with rfl | hV
      · rw [List.append_nil] at hText
        exact ha (hText ▸ hu.isInfix)
      · exact hCut (u, v) (mem_splits_iff.mpr ⟨hText, hU, hV⟩) hu hv

theorem free_append_of_ended {a b : List Char} (ha : p.Free a) (hEnded : p.Ended a)
    (hb : p.Free b) : p.Free (a ++ b) :=
  free_append ha hb fun s hs hSuffix => absurd hSuffix (hEnded s hs)

theorem free_append_of_blocks {a b rest : List Char} (ha : p.Free (a ++ p.closer.toList))
    (hBlocks : p.Blocks b) (hb : p.Free (b ++ rest)) : p.Free (a ++ (b ++ rest)) := by
  refine free_append (ha.inside (List.prefix_append a _).isInfix) hb ?_
  intro s hs hSuffix hPrefix
  obtain ⟨hText, -, -⟩ := mem_splits_iff.mp hs
  rcases hBlocks.2 s hs with hCloser | ⟨hNot, hShort⟩
  · obtain ⟨front, rfl⟩ := hSuffix
    obtain ⟨back, hBack⟩ := hCloser
    refine ha ⟨front, back, ?_⟩
    rw [hText, ← hBack]
    simp only [List.append_assoc]
  · rcases List.prefix_or_prefix_of_prefix hPrefix (List.prefix_append b rest) with h | h
    · exact hNot h
    · exact hShort h

/-- A beginning of the phrase at the end of two texts is one at the end of the second, or the second
stands in the phrase behind a beginning at the end of the first. -/
theorem suffix_append_cases {a b u : List Char} (hSuffix : u <:+ a ++ b) :
    u <:+ b ∨ ∃ front, front ≠ [] ∧ u = front ++ b ∧ front <:+ a := by
  rcases List.suffix_or_suffix_of_suffix hSuffix (List.suffix_append a b) with h | ⟨front, rfl⟩
  · exact .inl h
  · rcases eq_or_ne front [] with rfl | hFront
    · exact .inl (List.suffix_refl _)
    · obtain ⟨more, hMore⟩ := hSuffix
      rw [← List.append_assoc] at hMore
      exact .inr ⟨front, hFront, rfl, more, List.append_cancel_right hMore⟩

theorem Ended.append {a b : List Char} (ha : p.Ended a) (hb : p.Ended b) : p.Ended (a ++ b) := by
  intro s hs hSuffix
  obtain ⟨hText, -, hRest⟩ := mem_splits_iff.mp hs
  rcases suffix_append_cases hSuffix with h | ⟨front, hFront, hEq, h⟩
  · exact hb s hs h
  · refine ha (front, b ++ s.2) (mem_splits_iff.mpr ⟨?_, hFront, by simp [hRest]⟩) h
    rw [hText, hEq, List.append_assoc]

theorem Blocks.ended_append {a b : List Char} (hBlocks : p.Blocks b) (hb : p.Ended b) :
    p.Ended (a ++ b) := by
  intro s hs hSuffix
  obtain ⟨hText, -, hRest⟩ := mem_splits_iff.mp hs
  rcases suffix_append_cases hSuffix with h | ⟨front, hFront, hEq, -⟩
  · exact hb s hs h
  · have hSplit : (front, b ++ s.2) ∈ p.splits := by
      refine mem_splits_iff.mpr ⟨?_, hFront, by simp [hRest]⟩
      rw [hText, hEq, List.append_assoc]
    rcases hBlocks.2 _ hSplit with hCloser | ⟨-, hShort⟩
    · -- the closer is too short to hold both parts
      have hLength := hCloser.length_le
      have hB := List.length_pos_iff.mpr hBlocks.1
      have hS := List.length_pos_iff.mpr hRest
      have hOne : p.closer.toList.length ≤ 1 := by cases p.closer <;> simp
      rw [List.length_append] at hLength
      omega
    · exact hShort (List.prefix_append b s.2)

/-! ## Texts from pieces -/

/-- A fixed piece of a text, or a text that is filled in. -/
inductive Segment
  | lit (chars : List Char)
  | arg (text : String)

def Segment.text : Segment → String
  | lit cs => String.ofList cs
  | arg t => t

def spell : List Segment → String
  | [] => ""
  | first :: rest => rest.foldl (fun t q => t ++ q.text) first.text

theorem toList_spell (ps : List Segment) :
    (spell ps).toList = ps.flatMap fun q => q.text.toList := by
  have hFold (t : String) (qs : List Segment) :
      (qs.foldl (fun t q => t ++ q.text) t).toList =
        t.toList ++ qs.flatMap fun q => q.text.toList := by
    induction qs generalizing t with
    | nil => simp
    | cons q qs ih => simp [ih]
  cases ps with
  | nil => rfl
  | cons first rest => simp [spell, hFold]

/-- A property of all texts that are filled in. -/
def Filled (P : String → Prop) : List Segment → Prop
  | [] => True
  | .lit _ :: ps => Filled P ps
  | .arg t :: ps => P t ∧ Filled P ps

theorem Filled.mono {P Q : String → Prop} {ps : List Segment} (h : Filled P ps)
    (hImp : ∀ t, P t → Q t) : Filled Q ps := by
  induction ps with
  | nil => trivial
  | cons q ps ih =>
    cases q with
    | lit t => exact ih h
    | arg t => exact ⟨hImp t h.1, ih h.2⟩

/-- Whether the fixed pieces keep the phrase from arising, whatever is filled in. The flag tells that
no beginning of the phrase can be at the end of what stands in front. -/
def fits (p : Phrase) : Bool → List Segment → Bool
  | _, [] => true
  | ended, .lit cs :: ps =>
    decide (p.Free (cs ++ p.closer.toList)) && (ended || decide (p.Blocks cs)) &&
      p.fits (p.Ended cs) ps
  | ended, .arg _ :: ps => ended && p.fits false ps

theorem free_closer (p : Phrase) : p.Free p.closer.toList := p.proper

/-- What is known of the text in front of the remaining pieces. -/
def Ready (p : Phrase) (ended : Bool) (cs : List Char) : Prop :=
  p.Free (cs ++ p.closer.toList) ∧ (ended = true → p.Ended cs)

theorem Ready.free_append {ended : Bool} {cs ds : List Char} (hReady : p.Ready ended cs)
    (hEnded : ended = true) (hFree : p.Free ds) : p.Free (cs ++ ds) :=
  free_append_of_ended (hReady.1.inside (List.prefix_append cs _).isInfix) (hReady.2 hEnded) hFree

theorem Ready.lit {ended : Bool} {cs ds : List Char} (hReady : p.Ready ended cs)
    (hFree : p.Free (ds ++ p.closer.toList)) (hBlocks : ended = true ∨ p.Blocks ds) :
    p.Ready (decide (p.Ended ds)) (cs ++ ds) := by
  refine ⟨?_, fun hEnded => ?_⟩
  · rw [List.append_assoc]
    rcases hBlocks with hEnded | hBlocks
    · exact hReady.free_append hEnded hFree
    · exact free_append_of_blocks hReady.1 hBlocks hFree
  · rcases hBlocks with hFront | hBlocks
    · exact (hReady.2 hFront).append (of_decide_eq_true hEnded)
    · exact hBlocks.ended_append (of_decide_eq_true hEnded)

theorem Ready.arg {cs : List Char} {t : String} (hReady : p.Ready true cs) (hClear : p.Clear t) :
    p.Ready false (cs ++ t.toList) := by
  refine ⟨?_, nofun⟩
  rw [List.append_assoc]
  exact hReady.free_append rfl hClear

theorem Ready.pieces {ended : Bool} {cs : List Char} {ps : List Segment} (hReady : p.Ready ended cs)
    (hFits : p.fits ended ps = true) (hFilled : Filled p.Clear ps) :
    p.Free (cs ++ ps.flatMap (fun q => q.text.toList) ++ p.closer.toList) := by
  induction ps generalizing ended cs with
  | nil => simpa using hReady.1
  | cons q ps ih =>
    rw [List.flatMap_cons, ← List.append_assoc cs]
    cases q with
    | lit ds =>
      simp only [fits, Bool.and_eq_true, Bool.or_eq_true, decide_eq_true_eq] at hFits
      rw [Segment.text, String.toList_ofList]
      exact ih (hReady.lit hFits.1.1 hFits.1.2) hFits.2 hFilled
    | arg t =>
      simp only [fits, Bool.and_eq_true] at hFits
      obtain ⟨rfl, hFits⟩ := hFits
      exact ih (hReady.arg hFilled.1) hFits hFilled.2

theorem ready_nil (p : Phrase) : p.Ready true [] := by
  refine ⟨p.free_closer, fun _ s hs hSuffix => ?_⟩
  exact (mem_splits_iff.mp hs).2.1 (List.suffix_nil.mp hSuffix)

/-- A phrase that the fixed pieces keep out and that no text filled in holds is not in the whole. -/
theorem clear_spell (ps : List Segment) (hFits : p.fits true ps = true)
    (hFilled : Filled p.Clear ps) : p.Clear (spell ps) := by
  rw [Clear, toList_spell]
  simpa using p.ready_nil.pieces hFits hFilled

/-- A text with pieces behind it. -/
theorem Clear.append_spell {t : String} (hClear : p.Clear t) (ps : List Segment)
    (hFits : p.fits false ps = true) (hFilled : Filled p.Clear ps) : p.Clear (t ++ spell ps) := by
  have hReady : p.Ready false t.toList := ⟨hClear, nofun⟩
  rw [Clear, String.toList_append, toList_spell]
  exact hReady.pieces hFits hFilled

/-- Pieces that keep several phrases out, and one of them. -/
theorem clear_template {family : List Phrase} (hp : p ∈ family) (ps : List Segment)
    (hFits : (family.all fun q => q.fits true ps) = true) (hFilled : Filled p.Clear ps) :
    p.Clear (spell ps) :=
  clear_spell ps (List.all_eq_true.mp hFits p hp) hFilled

theorem clear_fixed {family : List Phrase} (hp : p ∈ family) {cs : List Char}
    (hFits : (family.all fun q => q.fits true [.lit cs]) = true) : p.Clear (String.ofList cs) :=
  clear_template hp [.lit cs] hFits trivial

/-- Whether the phrase stands in a fixed piece. -/
def stated (p : Phrase) : List Segment → Bool
  | [] => false
  | .lit cs :: ps => occurs p.chars cs || p.stated ps
  | .arg _ :: ps => p.stated ps

/-- A phrase in a fixed piece is in the whole. -/
theorem mentions_spell (ps : List Segment) (h : p.stated ps = true) :
    Mentions p.text (spell ps) := by
  rw [Mentions, toList_spell, toList_text]
  induction ps with
  | nil => cases h
  | cons q ps ih =>
    rw [List.flatMap_cons]
    have hLater (hRest : p.stated ps = true) :
        p.chars <:+: q.text.toList ++ ps.flatMap fun q => q.text.toList :=
      (ih hRest).trans (List.suffix_append _ _).isInfix
    cases q with
    | lit cs =>
      rcases Bool.or_eq_true_iff.mp h with hHere | hRest
      · rw [Segment.text, String.toList_ofList]
        exact (occurs_iff.mp hHere).trans (List.prefix_append _ _).isInfix
      · exact hLater hRest
    | arg t => exact hLater h

theorem Clear.free {t : String} (hClear : p.Clear t) : p.Free t.toList :=
  hClear.inside (List.prefix_append _ _).isInfix

theorem free_iff_not_mentions {t : String} : p.Free t.toList ↔ ¬ Mentions p.text t := by
  rw [Free, Mentions, toList_text]

theorem Clear.not_mentions {t : String} (hClear : p.Clear t) : ¬ Mentions p.text t :=
  free_iff_not_mentions.mp hClear.free

theorem clear_iff_not_mentions {t : String} (hCloser : p.closer = none) :
    p.Clear t ↔ ¬ Mentions p.text t := by
  rw [Clear, hCloser, Option.toList_none, List.append_nil, free_iff_not_mentions]

/-! ## Lists, numbers and quotations -/

/-- Whether texts may be joined by a separator. -/
def Separates (p : Phrase) (sep : String) : Prop :=
  p.Clear sep ∧ p.Blocks sep.toList ∧ p.Ended sep.toList

instance (p : Phrase) (sep : String) : Decidable (p.Separates sep) :=
  inferInstanceAs (Decidable (_ ∧ _))

theorem clear_join {sep : String} (hSep : p.Separates sep) {ts : List String}
    (hTexts : ∀ t ∈ ts, p.Clear t) : p.Clear (join sep ts) := by
  obtain ⟨hClear, hBlocks, hEnded⟩ := hSep
  simp only [Clear, join, String.toList_ofList]
  induction ts with
  | nil => exact p.free_closer
  | cons t ts ih =>
    cases ts with
    | nil => exact hTexts t (by simp)
    | cons next more =>
      have hRest := ih fun u hu => hTexts u (List.mem_cons_of_mem _ hu)
      have hTail := free_append_of_ended hClear.free hEnded hRest
      simpa [joinChars] using free_append_of_blocks (hTexts t (by simp)) hBlocks hTail

/-- A character of the phrase that is not in a text keeps the phrase out. -/
theorem clear_of_not_mem {t : String} {c : Char} (hPhrase : c ∈ p.chars)
    (hText : c ∉ t.toList) (hCloser : c ∉ p.closer.toList) : p.Clear t := by
  intro hInfix
  rcases List.mem_append.mp (hInfix.subset hPhrase) with h | h
  · exact hText h
  · exact hCloser h

/-- The characters of numbers, not-a-number and infinity included. -/
def inNumbers (c : Char) : Bool :=
  c.isDigit || ['-', '+', '.', 'e', 'N', 'a', 'i', 'n', 'f'].contains c

/-- Whether the phrase has a character that no number has. -/
def Wordy (p : Phrase) : Prop := ∃ c ∈ p.chars, inNumbers c = false ∧ c ∉ p.closer.toList

instance (p : Phrase) : Decidable p.Wordy := List.decidableBEx _ _

theorem clear_of_inNumbers {t : String} (hWordy : p.Wordy)
    (hText : ∀ c ∈ t.toList, inNumbers c = true) : p.Clear t := by
  obtain ⟨c, hPhrase, hOther, hCloser⟩ := hWordy
  refine clear_of_not_mem hPhrase (fun hMem => ?_) hCloser
  rw [hText c hMem] at hOther
  cases hOther

theorem inNumbers_of_isDigit {c : Char} (h : c.isDigit = true) : inNumbers c = true := by
  simp [inNumbers, h]

theorem inNumbers_of_mem_toDigits {c : Char} {n : Nat} (h : c ∈ Nat.toDigits 10 n) :
    inNumbers c = true :=
  inNumbers_of_isDigit (Nat.isDigit_of_mem_toDigits (by decide) (by decide) h)

theorem clear_nat (hWordy : p.Wordy) (n : Nat) : p.Clear (toString n) := by
  refine clear_of_inNumbers hWordy fun c hMem => ?_
  have hText : (toString n).toList = Nat.toDigits 10 n := by
    simp [toString, Nat.repr]
  exact inNumbers_of_mem_toDigits (hText ▸ hMem)

theorem clear_int (hWordy : p.Wordy) (n : Int) : p.Clear (toString n) := by
  cases n with
  | ofNat n => exact clear_nat hWordy n
  | negSucc n =>
    refine clear_of_inNumbers hWordy fun c hMem => ?_
    have hText : (toString (Int.negSucc n)).toList = '-' :: Nat.toDigits 10 (n + 1) := by
      simp [toString, Int.repr, Nat.repr]
    rcases List.mem_cons.mp (hText ▸ hMem) with rfl | hDigit
    · decide
    · exact inNumbers_of_mem_toDigits hDigit

theorem inNumbers_shortest {tie : Decimal.Tie} {x : Decimal.Binary} {c : Char}
    (h : c ∈ (x.shortest tie).digits) : inNumbers c = true := by
  have hDigits : c ∈ Nat.toDigits 10 (x.search tie 16 1).1 := by
    have hDropped := (List.dropWhile_sublist _).subset (List.mem_reverse.mp h)
    exact List.mem_reverse.mp hDropped
  exact inNumbers_of_mem_toDigits hDigits

theorem inNumbers_positional {digits : List Char} (hDigits : ∀ c ∈ digits, inNumbers c = true)
    (exponent : Int) {c : Char} (h : c ∈ Decimal.positional digits exponent) :
    inNumbers c = true := by
  have hZero : inNumbers '0' = true := by decide
  have hPoint : inNumbers '.' = true := by decide
  have hPadded (n : Nat) : ∀ d ∈ digits ++ List.replicate n '0', inNumbers d = true := by
    intro d hd
    rcases List.mem_append.mp hd with hd | hd
    · exact hDigits d hd
    · exact List.eq_of_mem_replicate hd ▸ hZero
  unfold Decimal.positional at h
  split at h
  · simp only [List.cons_append, List.mem_cons, List.mem_append, List.mem_replicate] at h
    rcases h with rfl | rfl | ⟨-, rfl⟩ | h
    · exact hZero
    · exact hPoint
    · exact hZero
    · exact hDigits c h
  · rcases List.mem_append.mp h with h | h
    · exact hPadded _ c (List.mem_of_mem_take h)
    · rcases List.mem_cons.mp h with rfl | h
      · exact hPoint
      · split at h
        · exact List.mem_singleton.mp h ▸ hZero
        · exact hPadded _ c (List.mem_of_mem_drop h)

theorem inNumbers_exponential {digits : List Char} (hDigits : ∀ c ∈ digits, inNumbers c = true)
    (plus : Bool) (exponent : Int) {c : Char} (h : c ∈ Decimal.exponential plus digits exponent) :
    inNumbers c = true := by
  simp only [Decimal.exponential, List.append_assoc, List.cons_append, List.mem_append,
    List.mem_cons] at h
  rcases h with h | rfl | h | h
  · split at h
    · cases h
    · exact hDigits c h
    · rename_i d rest
      rcases List.mem_cons.mp h with rfl | h
      · exact hDigits _ List.mem_cons_self
      · rcases List.mem_cons.mp h with rfl | h
        · decide
        · exact hDigits c (List.mem_cons_of_mem _ h)
  · decide
  · split_ifs at h <;> simp only [List.mem_singleton, List.not_mem_nil] at h <;> exact h ▸ by decide
  · exact inNumbers_of_mem_toDigits h

theorem inNumbers_of_all {cs : List Char} (h : cs.all inNumbers = true) {c : Char} (hc : c ∈ cs) :
    inNumbers c = true :=
  List.all_eq_true.mp h c hc

theorem inNumbers_render (layout : Decimal.Layout) (x : Float) {c : Char}
    (h : c ∈ (layout.render x).toList) : inNumbers c = true := by
  have hSign : (if Decimal.isNegative x then ['-'] else []).all inNumbers = true := by
    split <;> decide
  unfold Decimal.Layout.render at h
  dsimp only at h
  split at h
  · exact inNumbers_of_all (by decide) h
  · rw [String.toList_ofList] at h
    rcases List.mem_append.mp h with h | h
    · exact inNumbers_of_all hSign h
    · exact inNumbers_of_all (by decide) h
  · rw [String.toList_ofList] at h
    rcases List.mem_append.mp h with h | h
    · exact inNumbers_of_all hSign h
    · exact inNumbers_of_all (by decide) h
  · rw [String.toList_ofList] at h
    rcases List.mem_append.mp h with h | h
    · exact inNumbers_of_all hSign h
    · unfold Decimal.Layout.scientific at h
      split at h
      · exact inNumbers_positional (fun d => inNumbers_shortest) _ h
      · exact inNumbers_exponential (fun d => inNumbers_shortest) _ _ h

theorem clear_render (hWordy : p.Wordy) (layout : Decimal.Layout) (x : Float) :
    p.Clear (layout.render x) :=
  clear_of_inNumbers hWordy fun _ => inNumbers_render layout x

theorem head?_of_begins {c : Char} {cs : List Char} (hPrefix : p.chars <+: c :: cs) :
    p.chars.head? = some c := by
  cases hText : p.chars with
  | nil => exact absurd (hText ▸ List.nil_infix) p.proper
  | cons d ds =>
    rw [hText, List.cons_prefix_cons] at hPrefix
    rw [hPrefix.1, List.head?_cons]

/-- No occurrence of the phrase reaches over a character that is not in it. -/
theorem free_append_cons {a b : List Char} {c : Char} (hc : c ∉ p.chars) (ha : p.Free a)
    (hb : p.Free b) : p.Free (a ++ c :: b) := by
  refine free_append ha (fun hInfix => ?_) fun s hs _ => ?_
  · rcases List.infix_cons_iff.mp hInfix with h | h
    · exact hc (List.mem_of_mem_head? (head?_of_begins h))
    · exact hb h
  · obtain ⟨hText, -, hRest⟩ := mem_splits_iff.mp hs
    rintro ⟨rest, hPrefix⟩
    obtain ⟨d, v, hV⟩ := List.exists_cons_of_ne_nil hRest
    rw [hV] at hText hPrefix
    obtain ⟨rfl, -⟩ := List.cons.inj hPrefix
    exact hc (by simp [hText])

/-- Whether the phrase can be found in a quotation only where it stands in the quoted text: an escape
holds none of it and does not begin it. -/
def Quotable (p : Phrase) (delimiter : Char) : Prop :=
  '\\' ∉ p.chars ∧ delimiter ∉ p.chars ∧
    ∀ c ∈ p.chars.head?, c ∉ ['n', 'r', 't']

instance (p : Phrase) (delimiter : Char) : Decidable (p.Quotable delimiter) :=
  have : Decidable (∀ c ∈ p.chars.head?, c ∉ ['n', 'r', 't']) := Option.decidableForallMem _
  inferInstanceAs (Decidable (_ ∧ _))

theorem quoteChar_cases (delimiter c : Char) :
    quoteChar delimiter c = [c] ∨
      ∃ d ∈ ['\\', 'n', 'r', 't', delimiter], quoteChar delimiter c = ['\\', d] := by
  unfold quoteChar
  split_ifs with h₁ h₂ h₃ h₄ h₅ <;> simp [*]

theorem prefix_of_quoted {delimiter : Char} {u cs : List Char} (hSlash : '\\' ∉ u)
    (hPrefix : u <+: cs.flatMap (quoteChar delimiter)) : u <+: cs := by
  induction cs generalizing u with
  | nil => simpa using hPrefix
  | cons c cs ih =>
    cases u with
    | nil => exact List.nil_prefix
    | cons d u =>
      rcases quoteChar_cases delimiter c with hPlain | ⟨e, -, hEscape⟩
      · rw [List.flatMap_cons, hPlain, List.singleton_append, List.cons_prefix_cons] at hPrefix
        obtain ⟨rfl, hRest⟩ := hPrefix
        exact List.cons_prefix_cons.mpr ⟨rfl, ih (fun h => hSlash (List.mem_cons_of_mem _ h)) hRest⟩
      · rw [List.flatMap_cons, hEscape, List.cons_append, List.cons_prefix_cons] at hPrefix
        exact absurd (hPrefix.1 ▸ List.mem_cons_self) hSlash

theorem infix_of_quoted {delimiter : Char} (hQuotable : p.Quotable delimiter) {cs : List Char}
    (hInfix : p.chars <:+: cs.flatMap (quoteChar delimiter)) : p.chars <:+: cs := by
  obtain ⟨hSlash, hDelimiter, hHead⟩ := hQuotable
  induction cs with
  | nil => simpa using hInfix
  | cons c cs ih =>
    rcases quoteChar_cases delimiter c with hPlain | ⟨d, hMem, hEscape⟩
    · rcases List.infix_cons_iff.mp (by simpa [hPlain] using hInfix) with h | h
      · have hWhole : p.chars <+: (c :: cs).flatMap (quoteChar delimiter) := by
          simpa [hPlain] using h
        exact (prefix_of_quoted hSlash hWhole).isInfix
      · exact (ih h).trans (List.suffix_cons c cs).isInfix
    · rcases List.infix_cons_iff.mp (by simpa [hEscape] using hInfix) with h | h
      · exact absurd (List.mem_of_mem_head? (head?_of_begins h)) hSlash
      · rcases List.infix_cons_iff.mp h with h | h
        · have hFirst := head?_of_begins h
          have hIn := List.mem_of_mem_head? hFirst
          have hLetter := hHead d hFirst
          simp only [List.mem_cons, List.not_mem_nil, or_false, not_or] at hMem hLetter
          -- the phrase would begin inside an escape, with one of the letters it excludes
          rcases hMem with rfl | rfl | rfl | rfl | rfl
          · exact absurd hIn hSlash
          · exact absurd rfl hLetter.1
          · exact absurd rfl hLetter.2.1
          · exact absurd rfl hLetter.2.2
          · exact absurd hIn hDelimiter
        · exact (ih h).trans (List.suffix_cons c cs).isInfix

theorem clear_quote {delimiter : Char} (hQuotable : p.Quotable delimiter) {s : String}
    (hText : ¬ Mentions p.text s) : p.Clear (quote delimiter s) := by
  have hInner : p.Free (s.toList.flatMap (quoteChar delimiter)) :=
    fun hInfix => free_iff_not_mentions.mpr hText (infix_of_quoted hQuotable hInfix)
  have hTail := free_append_cons hQuotable.2.1 hInner p.free_closer
  have hNil : p.Free [] := p.free_closer.inside List.nil_infix
  simpa [Clear, quote, quoteChars] using free_append_cons hQuotable.2.1 hNil hTail

/-! ## Calls and paths -/

/-- Whether a text that ends in an opening parenthesis is never the beginning of the phrase, but for
what the closer completes. -/
def Opens (p : Phrase) : Prop :=
  ∀ s ∈ p.splits, '(' ∈ s.1.getLast? → s.2 <+: p.closer.toList

instance (p : Phrase) : Decidable p.Opens := inferInstanceAs (Decidable (∀ s ∈ p.splits, _))

theorem Opens.ended (hOpens : p.Opens) {t : String} (hClear : p.Clear (t ++ "(")) :
    p.Ended (t ++ "(").toList := by
  intro s hs hSuffix
  obtain ⟨hText, hFront, -⟩ := mem_splits_iff.mp hs
  have hLast : '(' ∈ s.1.getLast? := by
    obtain ⟨front, hAll⟩ := hSuffix
    have hEnd := congrArg List.getLast? hAll
    rw [List.getLast?_append_of_ne_nil _ hFront] at hEnd
    simp [hEnd]
  obtain ⟨front, hAll⟩ := hSuffix
  obtain ⟨back, hBack⟩ := hOpens s hs hLast
  refine hClear ⟨front, back, ?_⟩
  rw [hText, ← hAll, ← hBack]
  simp only [List.append_assoc]

/-- A call, given what stands in front of its parenthesis, what stands in it and what closes it. -/
theorem clear_called (hOpens : p.Opens) {callee inner : String} {closing : List Char}
    (hEnd : p.fits false [.lit closing] = true) (hCallee : p.Clear (callee ++ "("))
    (hInner : p.Clear inner) : p.Clear (callee ++ "(" ++ inner ++ String.ofList closing) := by
  have hReady : p.Ready true (callee ++ "(").toList := ⟨hCallee, fun _ => hOpens.ended hCallee⟩
  have hPieces : p.fits true [.arg inner, .lit closing] = true := by simpa [fits] using hEnd
  have hFree := hReady.pieces hPieces ⟨hInner, trivial⟩
  rw [Clear]
  simpa [Segment.text] using hFree

/-- An occurrence of the phrase in two texts that share a part is in one of them, or reaches over the
shared part. -/
theorem free_overlap {a b c : List Char} (hFirst : p.Free (a ++ b)) (hSecond : p.Free (b ++ c))
    (hOver : ∀ u v, u ≠ [] → v ≠ [] → u <:+ a → v <+: c → p.chars ≠ u ++ (b ++ v)) :
    p.Free (a ++ (b ++ c)) := by
  refine free_append (hFirst.inside (List.prefix_append a b).isInfix) hSecond ?_
  intro s hs hSuffix hPrefix
  obtain ⟨hText, hU, -⟩ := mem_splits_iff.mp hs
  obtain ⟨front, rfl⟩ := hSuffix
  have hShort : ¬ s.2 <+: b := by
    rintro ⟨back, rfl⟩
    refine hFirst ⟨front, back, ?_⟩
    rw [hText]
    simp only [List.append_assoc]
  rcases List.prefix_or_prefix_of_prefix hPrefix (List.prefix_append b c) with h | ⟨v, hV⟩
  · exact hShort h
  · refine hOver s.1 v hU ?_ (List.suffix_append _ _) ?_ (by rw [hText, hV])
    · rintro rfl
      exact hShort ⟨[], by simpa using hV.symm⟩
    · exact List.prefix_append_right_inj _ |>.mp (hV ▸ hPrefix)

end Phrase

/-! ## Texts without a character -/

def Avoids (c : Char) (t : String) : Prop := c ∉ t.toList

instance (c : Char) (t : String) : Decidable (Avoids c t) := inferInstanceAs (Decidable (¬ _))

theorem Avoids.append {c : Char} {t u : String} (ht : Avoids c t) (hu : Avoids c u) :
    Avoids c (t ++ u) := by
  rw [Avoids, String.toList_append, List.mem_append, not_or]
  exact ⟨ht, hu⟩

theorem avoids_nat {c : Char} (hc : c.isDigit = false) (n : Nat) : Avoids c (toString n) := by
  intro hMem
  have hDigit := Nat.isDigit_of_mem_toDigits (b := 10) (n := n) (by decide) (by decide)
    (by simpa [toString, Nat.repr] using hMem)
  rw [hc] at hDigit
  cases hDigit

theorem avoids_numbered {c : Char} (hc : c.isDigit = false) {t : String} (ht : Avoids c t)
    (n : Nat) : Avoids c (t ++ toString n) :=
  ht.append (avoids_nat hc n)

end ServiceCompiler.Text
