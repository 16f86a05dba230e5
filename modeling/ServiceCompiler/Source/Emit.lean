import ServiceCompiler.Source.Line

/-! # Emitting source

An emission yields a value, writes lines and takes fresh numbers for the names of what it has to
write ahead of the line in hand. -/

namespace ServiceCompiler.Source

structure Emitted (α : Type) where
  value : α
  lines : List Line
  next : Nat

/-- An emission, given the next fresh number. -/
def Emit (α : Type) : Type := Nat → Emitted α

namespace Emit

variable {α β : Type}

protected def pure (a : α) : Emit α := fun n => ⟨a, [], n⟩

protected def bind (m : Emit α) (f : α → Emit β) : Emit β := fun n =>
  let first := m n
  let second := f first.value first.next
  ⟨second.value, first.lines ++ second.lines, second.next⟩

instance : Monad Emit where
  pure := Emit.pure
  bind := Emit.bind

@[simp] theorem pure_apply (a : α) (n : Nat) : (pure a : Emit α) n = ⟨a, [], n⟩ := rfl

@[simp] theorem bind_apply (m : Emit α) (f : α → Emit β) (n : Nat) :
    (m >>= f) n =
      ⟨(f (m n).value (m n).next).value, (m n).lines ++ (f (m n).value (m n).next).lines,
        (f (m n).value (m n).next).next⟩ := rfl

def line (text : String) : Emit Unit := fun n => ⟨(), [.code 0 text], n⟩

/-- Writes lines, all at the same depth. -/
def lines (texts : List String) : Emit Unit := fun n => ⟨(), texts.map (.code 0), n⟩

def gap : Emit Unit := fun n => ⟨(), [.gap], n⟩

/-- Writes lines that were captured before. -/
def write (ls : List Line) : Emit Unit := fun n => ⟨(), ls, n⟩

/-- Writes what another emission writes, one level deeper. -/
def nest (m : Emit α) : Emit α := fun n =>
  let r := m n
  ⟨r.value, nested r.lines, r.next⟩

/-- Hands the lines of an emission over instead of writing them. -/
def capture (m : Emit α) : Emit (α × List Line) := fun n =>
  let r := m n
  ⟨(r.value, r.lines), [], r.next⟩

def number : Emit Nat := fun n => ⟨n, [], n + 1⟩

def fresh (kind : String) : Emit String := do
  return s!"__{kind}_{← number}"

def each (xs : List α) (f : α → Emit Unit) : Emit Unit :=
  match xs with
  | [] => pure ()
  | x :: rest => do
    f x
    each rest f

/-- Emissions with a gap between neighbours. -/
def spaced (xs : List α) (f : α → Emit Unit) : Emit Unit :=
  match xs with
  | [] => pure ()
  | x :: rest => do
    f x
    each rest fun y => do
      gap
      f y

/-- The values of an emission for every element. -/
def collect (xs : List α) (f : α → Emit β) : Emit (List β) :=
  match xs with
  | [] => pure []
  | x :: rest => do
    let b ← f x
    return b :: (← collect rest f)

def only (condition : Bool) (m : Emit Unit) : Emit Unit := if condition then m else pure ()

/-- Writes a line and lines one level deeper. -/
def head (text : String) (body : Emit α) : Emit α := do
  line text
  nest body

/-- Writes a line, lines one level deeper and a closing line. -/
def enclosed (opening : String) (body : Emit α) (closing : String) : Emit α := do
  line opening
  let a ← nest body
  line closing
  return a

/-- Writes a block in braces behind the text `opening`; `tail` follows the closing brace. -/
def braces (opening : String) (body : Emit α) (tail : String) : Emit α :=
  enclosed (opening ++ " \x7b") body ("\x7d" ++ tail)

end Emit

end ServiceCompiler.Source
