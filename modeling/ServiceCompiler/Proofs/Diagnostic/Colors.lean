import ServiceCompiler.Diagnostic.Render
import ServiceCompiler.Proofs.Text.Token
import ServiceCompiler.Proofs.Text.Words

/-! # Colored diagnostics

A terminal takes `ESC [`, parameters and `m` for one sequence and shows everything else. Renderings
are read in this way. Main statement: what a terminal shows of a colored rendering is the uncolored
one, and the sequences in it are those of the styles that were set. -/

namespace ServiceCompiler

namespace Terminal

/-- The characters that may stand between `ESC [` and the `m` that ends a sequence. Digits and
semicolons always may. -/
structure Grammar where
  inside : Char → Bool
  digit : ∀ c, c.isDigit = true → inside c = true
  semicolon : inside ';' = true
  final : inside 'm' = false

/-- Nothing else may stand there. -/
def Grammar.strict : Grammar where
  inside c := c.isDigit || c == ';'
  digit _ h := by rw [h, Bool.true_or]
  semicolon := rfl
  final := rfl

/-- A sequence goes up to the next `m`. -/
def Grammar.greedy : Grammar where
  inside c := c != 'm'
  digit c h := by
    rw [bne_iff_ne]
    rintro rfl
    cases h
  semicolon := rfl
  final := rfl

/-- What a terminal takes in at a time. -/
inductive Signal
  | shown (c : Char)
  | sequence (parameters : List Char)
  deriving DecidableEq, Repr

namespace Signal

def char? : Signal → Option Char
  | shown c => some c
  | sequence _ => none

def parameters? : Signal → Option (List Char)
  | shown _ => none
  | sequence parameters => some parameters

end Signal

namespace Grammar

/-- The parameters of a sequence at the start of a text. -/
def sequence? (g : Grammar) : List Char → Option (List Char)
  | '\x1b' :: '[' :: cs =>
    if (cs.dropWhile g.inside).head? = some 'm' then some (cs.takeWhile g.inside) else none
  | _ => none

/-- What a terminal takes in behind the characters that belong to a sequence before, as many as the
number says. -/
def signalsAfter (g : Grammar) : Nat → List Char → List Signal
  | _, [] => []
  | skipped + 1, _ :: cs => g.signalsAfter skipped cs
  | 0, c :: cs =>
    match g.sequence? (c :: cs) with
    | some parameters => .sequence parameters :: g.signalsAfter (parameters.length + 2) cs
    | none => .shown c :: g.signalsAfter 0 cs

def signals (g : Grammar) (cs : List Char) : List Signal := g.signalsAfter 0 cs

def erase (g : Grammar) (s : String) : String :=
  String.ofList ((g.signals s.toList).filterMap Signal.char?)

def sequences (g : Grammar) (s : String) : List (List Char) :=
  (g.signals s.toList).filterMap Signal.parameters?

variable {g : Grammar}

theorem signalsAfter_length (cs rest : List Char) :
    g.signalsAfter cs.length (cs ++ rest) = g.signals rest := by
  induction cs with
  | nil => rfl
  | cons c cs ih => exact ih

theorem signals_sequence {parameters : List Char} (h : ∀ c ∈ parameters, g.inside c = true)
    (rest : List Char) :
    g.signals ('\x1b' :: '[' :: (parameters ++ 'm' :: rest)) =
      .sequence parameters :: g.signals rest := by
  have hTake : (parameters ++ 'm' :: rest).takeWhile g.inside = parameters :=
    Text.takeWhile_append_of_ends h (Text.ends_cons g.final rest)
  have hDrop : (parameters ++ 'm' :: rest).dropWhile g.inside = 'm' :: rest := by
    rw [List.dropWhile_append_of_pos h, List.dropWhile_cons_of_neg (by simp [g.final])]
  have hSequence : g.sequence? ('\x1b' :: '[' :: (parameters ++ 'm' :: rest)) =
      some parameters := by
    rw [sequence?, hDrop, hTake, List.head?_cons, if_pos rfl]
  have hRest := signalsAfter_length (g := g) ('[' :: parameters ++ ['m']) rest
  simp only [List.length_append, List.length_cons, List.length_nil, List.append_assoc,
    List.cons_append, List.nil_append] at hRest
  rw [signals, signalsAfter, hSequence]
  exact congrArg (_ :: ·) hRest

theorem signals_shown {c : Char} {cs : List Char} (h : g.sequence? (c :: cs) = none) :
    g.signals (c :: cs) = .shown c :: g.signals cs := by
  rw [signals, signalsAfter, h, signals]

/-! ## Texts that are shown as they are -/

/-- A terminal shows the whole text, whatever follows it. -/
def Shows (g : Grammar) (cs : List Char) : Prop :=
  ∀ rest, g.signals (cs ++ rest) = cs.map .shown ++ g.signals rest

theorem Shows.nil : g.Shows [] := fun _ => rfl

theorem Shows.append {cs ds : List Char} (hFirst : g.Shows cs) (hSecond : g.Shows ds) :
    g.Shows (cs ++ ds) := by
  intro rest
  rw [List.append_assoc, hFirst, hSecond, List.map_append, List.append_assoc]

theorem Shows.of_not_mem {cs : List Char} (h : '\x1b' ∉ cs) : g.Shows cs := by
  induction cs with
  | nil => exact .nil
  | cons c cs ih =>
    intro rest
    obtain ⟨hFirst, hRest⟩ := List.ne_and_not_mem_of_not_mem_cons h
    have hNone : g.sequence? (c :: (cs ++ rest)) = none := by
      rw [sequence?]
      intro ds hCons
      exact hFirst (List.cons.inj hCons).1.symm
    rw [List.cons_append, signals_shown hNone, ih hRest, List.map_cons, List.cons_append]

/-- Even an escape character is shown if no bracket follows it. -/
theorem Shows.cons {d : Char} {ds : List Char} (hd : d ≠ '[') (h : g.Shows (d :: ds)) (c : Char) :
    g.Shows (c :: d :: ds) := by
  intro rest
  have hNone : g.sequence? (c :: (d :: ds ++ rest)) = none := by
    rw [sequence?]
    intro cs hCons
    exact hd (List.cons.inj (List.cons.inj hCons).2).1
  rw [List.cons_append, signals_shown hNone, h]
  rfl

end Grammar

end Terminal

open Terminal (Grammar Signal)

variable {g : Grammar}

/-! ## Pieces of a rendering -/

namespace Piece

def signals : Piece → List Signal
  | text s => s.toList.map .shown
  | style s => [.sequence s.parameters]

def style? : Piece → Option Style
  | text _ => none
  | style s => some s

/-- A terminal shows the text of the piece as it is. -/
def Plain (g : Grammar) : Piece → Prop
  | text s => g.Shows s.toList
  | style _ => True

end Piece

theorem plain_of_not_mem {ps : List Piece} (h : '\x1b' ∉ ps.flatMap (Piece.chars false)) :
    ∀ p ∈ ps, p.Plain g := by
  intro p hp
  cases p with
  | text s => exact .of_not_mem fun hEscape => h (List.mem_flatMap.mpr ⟨_, hp, hEscape⟩)
  | style s => trivial

theorem inside_of_mem_parameters {s : Style} {c : Char} (h : c ∈ s.parameters) :
    g.inside c = true := by
  have hKinds : s.parameters.all (fun c => c.isDigit || c == ';') = true := by
    cases s with
    | level l => cases l <;> decide
    | reset | bold | arrow | help => decide
  have hKind := List.all_eq_true.mp hKinds c h
  rw [Bool.or_eq_true, beq_iff_eq] at hKind
  rcases hKind with hDigit | rfl
  · exact g.digit c hDigit
  · exact g.semicolon

theorem signals_pieces {ps : List Piece} (h : ∀ p ∈ ps, p.Plain g) :
    g.signals (ps.flatMap (Piece.chars true)) = ps.flatMap Piece.signals := by
  induction ps with
  | nil => rfl
  | cons p ps ih =>
    obtain ⟨hFirst, hRest⟩ := List.forall_mem_cons.mp h
    rw [List.flatMap_cons, List.flatMap_cons, ← ih hRest]
    cases p with
    | text s => exact hFirst _
    | style s =>
      have hSequence :=
        Grammar.signals_sequence (fun _ => inside_of_mem_parameters (s := s) (g := g))
      simpa [Piece.chars, Style.sequence, Piece.signals] using hSequence _

theorem chars_of_signals (ps : List Piece) :
    (ps.flatMap Piece.signals).filterMap Signal.char? = ps.flatMap (Piece.chars false) := by
  induction ps with
  | nil => rfl
  | cons p ps ih =>
    rw [List.flatMap_cons, List.filterMap_append, ih, List.flatMap_cons]
    cases p with
    | text s => simp [Piece.signals, Piece.chars, Function.comp_def, Signal.char?]
    | style s => rfl

theorem parameters_of_signals (ps : List Piece) :
    (ps.flatMap Piece.signals).filterMap Signal.parameters? =
      (ps.filterMap Piece.style?).map Style.parameters := by
  induction ps with
  | nil => rfl
  | cons p ps ih =>
    rw [List.flatMap_cons, List.filterMap_append, ih]
    cases p with
    | text s =>
      have hNone : (Piece.text s).signals.filterMap Signal.parameters? = [] := by
        simp [Piece.signals, Signal.parameters?]
      rw [hNone]
      rfl
    | style s => rfl

/-! ## Diagnostics -/

/-- The pieces of several diagnostics, with an empty line between neighbours. -/
def allPieces : List Diagnostic → List Piece
  | [] => []
  | d :: ds => d.pieces ++ ds.flatMap fun e => .text "\n" :: e.pieces

theorem toList_renderAll (colors : Bool) (ds : List Diagnostic) :
    (renderAll colors ds).toList = (allPieces ds).flatMap (Piece.chars colors) := by
  have hChars : (ds.map (·.render colors)).map String.toList = ds.map (·.renderChars colors) := by
    simp [Diagnostic.render]
  rw [renderAll, Text.join, String.toList_ofList, hChars]
  cases ds with
  | nil => rfl
  | cons d ds =>
    rw [List.map_cons, Text.joinChars_cons, allPieces, List.flatMap_append, List.flatMap_assoc,
      List.flatMap_map]
    rfl

namespace Diagnostic

/-- No text of the diagnostic has an escape character. -/
structure Unescaped (d : Diagnostic) : Prop where
  message : '\x1b' ∉ d.message.toList
  locations : ∀ t ∈ d.locations, '\x1b' ∉ t.toList
  notes : ∀ t ∈ d.notes, '\x1b' ∉ t.toList
  help : ∀ t ∈ d.help, '\x1b' ∉ t.toList

instance (d : Diagnostic) : Decidable d.Unescaped :=
  decidable_of_iff (('\x1b' ∉ d.message.toList ∧ ∀ t ∈ d.locations, '\x1b' ∉ t.toList) ∧
      (∀ t ∈ d.notes, '\x1b' ∉ t.toList) ∧ ∀ t ∈ d.help, '\x1b' ∉ t.toList)
    ⟨fun h => ⟨h.1.1, h.1.2, h.2.1, h.2.2⟩, fun h => ⟨⟨h.message, h.locations⟩, h.notes, h.help⟩⟩

/-- The styles that are set from the beginning of a rendering to its end. -/
def styles (d : Diagnostic) : List Style :=
  [Style.level d.level, Style.reset, Style.bold, Style.reset] ++
    (if d.locations.isEmpty then [] else [Style.arrow, Style.reset]) ++
    d.notes.flatMap (fun _ => [Style.bold, Style.reset]) ++
    d.help.flatMap fun _ => [Style.help, Style.reset]

end Diagnostic

/-- The letter of a code is the only character that may be an escape character, and digits follow
it. -/
theorem shows_code (c : Code) : g.Shows s!"[{c.text}]".toList := by
  let number :=
    List.replicate (3 - (Nat.toDigits 10 c.number).length) '0' ++ Nat.toDigits 10 c.number
  have hText : (s!"[{c.text}]").toList = ['['] ++ (c.category :: (number ++ [']'])) := by
    simp [toString, Code.text, number]
  have hDigits : ∀ d ∈ number, d.isDigit = true := by
    intro d hd
    rcases List.mem_append.mp hd with hZero | hDigit
    · rw [List.eq_of_mem_replicate hZero]
      rfl
    · exact Text.isDigit_of_mem_digits hDigit
  have hShows : g.Shows (number ++ [']']) := by
    refine (Grammar.Shows.of_not_mem fun hEscape => ?_).append (.of_not_mem (by decide))
    exact absurd (hDigits _ hEscape) (by decide)
  rw [hText]
  refine (Grammar.Shows.of_not_mem (by decide)).append ?_
  cases hNumber : number with
  | nil => exact absurd (List.append_eq_nil_iff.mp hNumber).2 Nat.toDigits_ne_nil
  | cons d ds =>
    have hDigit : d.isDigit = true := hDigits d (hNumber ▸ List.mem_cons_self)
    have hBracket : d ≠ '[' := by
      rintro rfl
      cases hDigit
    rw [hNumber] at hShows
    exact hShows.cons hBracket c.category

theorem style?_pieces (d : Diagnostic) : d.pieces.filterMap Piece.style? = d.styles := by
  have hRemark (style : Style) (label text : String) :
      (Diagnostic.remark style label text).filterMap Piece.style? = [style, .reset] := rfl
  simp only [Diagnostic.pieces, Diagnostic.styles, List.filterMap_append, List.filterMap_flatMap,
    hRemark]
  cases d.locations <;> rfl

theorem plain_remark (style : Style) {label text : String} (hLabel : '\x1b' ∉ label.toList)
    (hText : '\x1b' ∉ text.toList) : ∀ p ∈ Diagnostic.remark style label text, p.Plain g := by
  apply plain_of_not_mem
  simp [Diagnostic.remark, Piece.chars, hLabel, hText]

theorem plain_pieces {d : Diagnostic} (h : d.Unescaped) : ∀ p ∈ d.pieces, p.Plain g := by
  have hName : '\x1b' ∉ d.level.name.toList := by
    cases d.level <;> decide
  have hPlaces : '\x1b' ∉ (Text.join " > " d.locations).toList := by
    rw [Text.join, String.toList_ofList]
    intro hEscape
    rcases Text.mem_joinChars hEscape with hSep | ⟨piece, hPiece, hMem⟩
    · exact absurd hSep (by decide)
    · obtain ⟨t, ht, rfl⟩ := List.mem_map.mp hPiece
      exact h.locations t ht hMem
  simp only [Diagnostic.pieces, List.forall_mem_append, List.forall_mem_flatMap]
  refine ⟨⟨⟨?_, ?_⟩, fun t ht => ?_⟩, fun t ht => ?_⟩
  · rw [List.forall_mem_cons, List.forall_mem_cons, List.forall_mem_cons]
    refine ⟨trivial, .of_not_mem hName, ?_, plain_of_not_mem ?_⟩
    · cases d.code with
      | none => exact .nil
      | some c => exact shows_code c
    · simp [Piece.chars, h.message]
  · apply plain_of_not_mem
    split <;> simp [Piece.chars, hPlaces]
  · exact plain_remark _ (by decide) (h.notes t ht)
  · exact plain_remark _ (by decide) (h.help t ht)

theorem plain_allPieces {ds : List Diagnostic} (h : ∀ d ∈ ds, d.Unescaped) :
    ∀ p ∈ allPieces ds, p.Plain g := by
  cases ds with
  | nil => exact fun p hp => absurd hp List.not_mem_nil
  | cons d ds =>
    obtain ⟨hFirst, hRest⟩ := List.forall_mem_cons.mp h
    simp only [allPieces, List.forall_mem_append, List.forall_mem_flatMap, List.forall_mem_cons]
    refine ⟨plain_pieces hFirst, fun e he => ⟨?_, plain_pieces (hRest e he)⟩⟩
    exact .of_not_mem (by decide)

theorem style?_allPieces (ds : List Diagnostic) :
    (allPieces ds).filterMap Piece.style? = ds.flatMap Diagnostic.styles := by
  cases ds with
  | nil => rfl
  | cons d ds =>
    rw [allPieces, List.filterMap_append, style?_pieces, List.filterMap_flatMap, List.flatMap_cons]
    congr 2
    funext e
    exact style?_pieces e

theorem signals_renderAll {ds : List Diagnostic} (h : ∀ d ∈ ds, d.Unescaped) :
    g.signals (renderAll true ds).toList = (allPieces ds).flatMap Piece.signals := by
  rw [toList_renderAll, signals_pieces (plain_allPieces h)]

theorem renderAll_singleton (colors : Bool) (d : Diagnostic) :
    renderAll colors [d] = d.render colors := by
  simp [renderAll, Text.join, Text.joinChars]

theorem erase_renderAll {ds : List Diagnostic} (h : ∀ d ∈ ds, d.Unescaped) :
    g.erase (renderAll true ds) = renderAll false ds := by
  rw [← String.toList_inj, Grammar.erase, String.toList_ofList, signals_renderAll h,
    chars_of_signals, toList_renderAll]

theorem sequences_renderAll {ds : List Diagnostic} (h : ∀ d ∈ ds, d.Unescaped) :
    g.sequences (renderAll true ds) = (ds.flatMap Diagnostic.styles).map Style.parameters := by
  rw [Grammar.sequences, signals_renderAll h, parameters_of_signals, style?_allPieces]

/-- Colors change the looks only: without its sequences the colored rendering of a diagnostic, or of
a list of them, is the uncolored one, and the sequences are those of the styles that it sets. -/
theorem erase_colored (g : Grammar) :
    (∀ d : Diagnostic, d.Unescaped →
      g.erase (d.render true) = d.render false ∧
        g.sequences (d.render true) = d.styles.map Style.parameters) ∧
    ∀ ds : List Diagnostic, (∀ d ∈ ds, d.Unescaped) →
      g.erase (renderAll true ds) = renderAll false ds ∧
        g.sequences (renderAll true ds) = (ds.flatMap Diagnostic.styles).map Style.parameters := by
  refine ⟨fun d h => ?_, fun ds h => ⟨erase_renderAll h, sequences_renderAll h⟩⟩
  have hOne : ∀ e ∈ [d], e.Unescaped := by
    simpa using h
  rw [← renderAll_singleton, ← renderAll_singleton]
  refine ⟨erase_renderAll hOne, ?_⟩
  rw [sequences_renderAll hOne, List.flatMap_singleton]

/-- Texts that look like the inside of a sequence, and a code whose letter is the escape
character. -/
def bracketed : Diagnostic :=
  ⟨.warning, some ⟨'\x1b', 31⟩, "[1;31mred", ["[0", "m"], ["1m"], [";m"]⟩

theorem erase_colored_bracketed :
    Grammar.strict.erase (bracketed.render true) =
      "warning[\x1b031]: [1;31mred\n  --> [0 > m\n   = note: 1m\n   = help: ;m\n" ∧
    Grammar.greedy.erase (renderAll true [bracketed, Diagnostic.of .note "m"]) =
      renderAll false [bracketed, Diagnostic.of .note "m"] ∧
    Grammar.greedy.sequences (renderAll true [bracketed, Diagnostic.of .note "m"]) =
      ["1;33", "0", "1", "0", "1;34", "0", "1", "0", "1;32", "0", "1;36", "0", "1", "0"].map
        String.toList := by
  have hBoth : ∀ d ∈ [bracketed, Diagnostic.of .note "m"], d.Unescaped := by decide
  obtain ⟨hErased, hSequences⟩ := (erase_colored .greedy).2 _ hBoth
  refine ⟨((erase_colored .strict).1 _ (hBoth _ List.mem_cons_self)).1.trans rfl, hErased, ?_⟩
  exact hSequences.trans rfl

end ServiceCompiler
