import ServiceCompiler.Json.Fault

/-! # Strings in documents -/

namespace ServiceCompiler.Json

def hexValue? (c : Char) : Option Nat :=
  if c.isDigit then some (c.toNat - '0'.toNat)
  else if 'a' ≤ c ∧ c ≤ 'f' then some (c.toNat - 'a'.toNat + 10)
  else if 'A' ≤ c ∧ c ≤ 'F' then some (c.toNat - 'A'.toNat + 10)
  else none

def hexValue4? (cs : List Char) : Option Nat :=
  cs.foldl (fun acc c => do return 16 * (← acc) + (← hexValue? c)) (some 0)

/-- Reads four hexadecimal digits. With fewer than four bytes left the text is cut. -/
def hexEscape : Reader Fault Nat := fun cs =>
  let window := cs.take 4
  if (String.ofList window).utf8ByteSize < 4 then .error .endInString
  else if window.length < 4 then .error .badEscape
  else
    match hexValue4? window with
    | some n => .ok (n, cs.drop 4)
    | none => .error .badEscape

def isLeading (n : Nat) : Bool := 0xD800 ≤ n && n ≤ 0xDBFF

def isTrailing (n : Nat) : Bool := 0xDC00 ≤ n && n ≤ 0xDFFF

/-- Reads the second half of a surrogate pair. -/
def trailingSurrogate (leading : Nat) : Reader Fault Char
  | [] => .error .endInString
  | '\\' :: [] => .error .endInString
  | '\\' :: 'u' :: rest => do
    let (n, rest) ← hexEscape rest
    if isTrailing n then
      return (Char.ofNat (0x10000 + 0x400 * (leading - 0xD800) + (n - 0xDC00)), rest)
    else throw .loneSurrogate
  | _ :: _ => .error .cutSurrogate

def simpleEscape? (c : Char) : Option Char :=
  if c = '"' || c = '\\' || c = '/' then some c
  else if c = 'b' then some '\x08'
  else if c = 'f' then some '\x0c'
  else if c = 'n' then some '\n'
  else if c = 'r' then some '\r'
  else if c = 't' then some '\t'
  else none

def escape : Reader Fault Char
  | [] => .error .endInString
  | c :: rest =>
    match simpleEscape? c with
    | some d => .ok (d, rest)
    | none =>
      if c = 'u' then do
        let (n, rest) ← hexEscape rest
        if isTrailing n then throw .loneSurrogate
        else if isLeading n then trailingSurrogate n rest
        else return (Char.ofNat n, rest)
      else .error .badEscape

/-- Reads an escape whose character does not matter, so that halves of surrogate pairs pass. -/
def skipEscape : Reader Fault Unit
  | [] => .error .endInString
  | c :: rest =>
    if (simpleEscape? c).isSome then .ok ((), rest)
    else if c = 'u' then do
      let (_, rest) ← hexEscape rest
      return ((), rest)
    else .error .badEscape

/-- Reads the characters up to the closing quote, with `special` after each backslash. -/
def quotedWith {α : Type} (plain : Char → α) (special : Reader Fault α) :
    Nat → Reader Fault (List α)
  | 0, _ => .error .endInString
  | _ + 1, [] => .error .endInString
  | steps + 1, c :: rest =>
    if c = '"' then .ok ([], rest)
    else if c = '\\' then do
      let (x, rest) ← special rest
      let (xs, rest) ← quotedWith plain special steps rest
      return (x :: xs, rest)
    else if c.toNat < 0x20 then .error .controlCharacter
    else do
      let (xs, rest) ← quotedWith plain special steps rest
      return (plain c :: xs, rest)

/-- Reads a string after its opening quote. -/
def quoted : Reader Fault String := fun cs => do
  let (chars, rest) ← quotedWith id escape (cs.length + 1) cs
  return (String.ofList chars, rest)

/-- Passes over a string after its opening quote. -/
def skipQuoted : Reader Fault Unit := fun cs => do
  let (_, rest) ← quotedWith (fun _ => ()) skipEscape (cs.length + 1) cs
  return ((), rest)

def hexDigit (n : Nat) : Char := "0123456789abcdef".toList.getD n '0'

/-- How one character is written in a string. -/
def writeChar (c : Char) : List Char :=
  if c = '"' then ['\\', '"']
  else if c = '\\' then ['\\', '\\']
  else if c = '\x08' then ['\\', 'b']
  else if c = '\x0c' then ['\\', 'f']
  else if c = '\n' then ['\\', 'n']
  else if c = '\r' then ['\\', 'r']
  else if c = '\t' then ['\\', 't']
  else if c.toNat < 0x20 then
    ['\\', 'u', '0', '0', hexDigit (c.toNat / 16), hexDigit (c.toNat % 16)]
  else [c]

def writeString (s : String) : List Char :=
  '"' :: s.toList.flatMap writeChar ++ ['"']

end ServiceCompiler.Json
