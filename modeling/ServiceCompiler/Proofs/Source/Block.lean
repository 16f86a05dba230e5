import Mathlib.Data.List.Basic
import ServiceCompiler.Source.Emit

/-! # Reading blocks

The blocks that an emission has written are read back from its lines by their depth: a header, the
lines under it and a closing brace. -/

namespace ServiceCompiler.Source

/-- A header at some depth and the lines under it. -/
structure Block where
  header : String
  inside : List Line
  deriving DecidableEq, Repr

def Line.isBelow (depth : Nat) : Line → Bool
  | code d _ => decide (depth < d)
  | gap => true

/-- The lines in front of the last line, back to the last one that is not below a depth. -/
def lastInside (depth : Nat) (ls : List Line) : List Line :=
  (ls.dropLast.reverse.takeWhile (Line.isBelow depth)).reverse

/-- Takes a line in front of what was read: the lines that wait for a header, and the blocks. -/
def readLine (depth : Nat) : Line → List Line × List Block → List Line × List Block
  | .code d text, (waiting, read) =>
    if d ≠ depth then (.code d text :: waiting, read)
    else if text = "\x7d" then ([], read)
    else ([], ⟨text, waiting⟩ :: read)
  | .gap, (waiting, read) => (.gap :: waiting, read)

/-- The blocks at a depth, each closed by a brace. -/
def readBlocks (depth : Nat) (ls : List Line) : List Block :=
  (ls.foldr (readLine depth) ([], [])).2

variable {depth : Nat} {ls inside : List Line} {header closing : String}

theorem foldr_readLine (h : ∀ l ∈ ls, l.isBelow depth = true) (waiting : List Line)
    (read : List Block) :
    ls.foldr (readLine depth) (waiting, read) = (ls ++ waiting, read) := by
  induction ls with
  | nil => rfl
  | cons l ls ih =>
    obtain ⟨hFirst, hRest⟩ := List.forall_mem_cons.mp h
    rw [List.foldr_cons, ih hRest]
    cases l with
    | gap => rfl
    | code d text =>
      have hBelow : depth < d := of_decide_eq_true hFirst
      exact if_pos (Nat.ne_of_gt hBelow)

theorem readBlocks_block (hHeader : header ≠ "\x7d") (inside : List Line)
    (h : ∀ l ∈ inside, l.isBelow depth = true) (rest : List Line) :
    readBlocks depth (.code depth header :: (inside ++ Line.code depth "\x7d" :: rest)) =
      ⟨header, inside⟩ :: readBlocks depth rest := by
  have hClosed : readLine depth (.code depth "\x7d") (rest.foldr (readLine depth) ([], [])) =
      ([], readBlocks depth rest) := by
    rw [readLine, if_neg (not_not.mpr rfl), if_pos rfl]
    rfl
  rw [readBlocks, List.foldr_cons, List.foldr_append, List.foldr_cons, hClosed, foldr_readLine h,
    readLine, if_neg (not_not.mpr rfl), if_neg hHeader, List.append_nil]

theorem lastInside_eq (before : List Line) (h : ∀ l ∈ inside, l.isBelow depth = true) :
    lastInside depth (before ++ Line.code depth header :: (inside ++ [Line.code depth closing])) =
      inside := by
  have hHeader : (Line.code depth header).isBelow depth = false := decide_eq_false (Nat.lt_irrefl _)
  have hLines : before ++ Line.code depth header :: (inside ++ [Line.code depth closing]) =
      (before ++ Line.code depth header :: inside) ++ [Line.code depth closing] := by
    simp
  rw [lastInside, hLines, List.dropLast_concat, List.reverse_append, List.reverse_cons,
    List.append_assoc, List.takeWhile_append_of_pos (by simpa using h)]
  simp [hHeader]

theorem isBelow_of_mem_nested {l : Line} (h : l ∈ nested ls) : l.isBelow 0 = true := by
  obtain ⟨l, -, rfl⟩ := List.mem_map.mp h
  cases l with
  | gap => rfl
  | code d text => exact decide_eq_true (Nat.succ_pos d)

theorem isBelow_of_mem_nested_nested {l : Line} (h : l ∈ nested (nested ls)) :
    l.isBelow 1 = true := by
  obtain ⟨l, hl, rfl⟩ := List.mem_map.mp h
  have hBelow := isBelow_of_mem_nested hl
  cases l with
  | gap => rfl
  | code d text => exact decide_eq_true (Nat.succ_lt_succ (of_decide_eq_true hBelow))

end ServiceCompiler.Source
