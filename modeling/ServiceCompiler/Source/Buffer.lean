import ServiceCompiler.Text.Split

/-! # Line buffers

A buffer collects lines at its current indentation. A child starts empty at the indentation of its
parent, so that lines can be prepared and appended later, as they were written. -/

namespace ServiceCompiler.Source

structure Buffer where
  unit : String
  depth : Nat
  lines : List String
  deriving DecidableEq, Repr

namespace Buffer

def empty (unit : String) : Buffer := ⟨unit, 0, []⟩

def child (b : Buffer) : Buffer := ⟨b.unit, b.depth, []⟩

/-- Adds a line; an empty line has no indentation. -/
def line (b : Buffer) (text : String) : Buffer :=
  let text := if text.isEmpty then "" else String.join (List.replicate b.depth b.unit) ++ text
  { b with lines := b.lines ++ [text] }

/-- Adds an empty line behind a line that is not empty. -/
def blank (b : Buffer) : Buffer :=
  match b.lines.getLast? with
  | some last => if last.isEmpty then b else { b with lines := b.lines ++ [""] }
  | none => b

def indent (b : Buffer) : Buffer := { b with depth := b.depth + 1 }

def dedent (b : Buffer) : Buffer := { b with depth := b.depth - 1 }

/-- Adds a line one level deeper. -/
def indented (b : Buffer) (text : String) : Buffer := (b.indent.line text).dedent

def append (b : Buffer) (lines : List String) : Buffer := { b with lines := b.lines ++ lines }

/-- The lines without the empty ones at the end, each ended by a line feed. -/
def finish (b : Buffer) : String :=
  Text.join "\n" (b.lines.reverse.dropWhile String.isEmpty).reverse ++ "\n"

end Buffer

end ServiceCompiler.Source
