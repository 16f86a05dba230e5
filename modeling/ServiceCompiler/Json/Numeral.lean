import ServiceCompiler.Decimal.Binary64
import ServiceCompiler.Decimal.Reading
import ServiceCompiler.Json.Fault
import ServiceCompiler.Json.Value

/-! # Numerals in documents

Digits are collected while they fit into 64 bits. Further digits before the point only raise the
exponent, and further digits after it are dropped. A numeral with a point, with an exponent or
outside 64 bits is the product of its digits and its power of ten in doubles. -/

namespace ServiceCompiler.Json

open ServiceCompiler.Decimal

def wordLimit : Nat := 0x10000000000000000

def exponentLimit : Nat := 0x80000000

/-- Divides by `10 ^ 308` until the exponent fits into one power of ten. -/
def scaleDown : Nat → Float → Nat → Float
  | 0, x, _ => x
  | steps + 1, x, exponent =>
    if exponent ≤ 308 then x / nearestDecimal 1 exponent
    else if x == 0.0 then x
    else scaleDown steps (x / nearestDecimal 1 308) (exponent - 308)

/-- The double for `digits · 10 ^ exponent`. -/
def scale (negative : Bool) (digits : Nat) (exponent : Int) : Except Fault Float :=
  let x := nearest digits 1
  let signed (y : Float) : Float := if negative then -y else y
  if exponent < 0 then .ok (signed (scaleDown (exponent.natAbs / 308 + 1) x exponent.natAbs))
  else if exponent ≤ 308 then
    let y := x * nearestDecimal 1 exponent
    if isFinite y then .ok (signed y) else .error .numberTooLarge
  else if x == 0.0 then .ok (signed x)
  else .error .numberTooLarge

/-- Collects digits while the number stays below `limit`. -/
def collect (limit : Nat) : Nat → List Char → Nat × List Char
  | n, [] => (n, [])
  | n, c :: rest =>
    if c.isDigit then
      let next := 10 * n + digitValue c
      if next < limit then collect limit next rest else (n, c :: rest)
    else (n, c :: rest)

def skipDigits (cs : List Char) : List Char := cs.dropWhile Char.isDigit

def startsWithDigit : List Char → Bool
  | c :: _ => c.isDigit
  | [] => false

/-- What is wrong where a digit has to stand. -/
def digitFault : List Char → Fault
  | [] => .endInValue
  | _ :: _ => .badNumber

/-- An exponent saturates where it leaves 32 bits. -/
def clampExponent (e : Int) : Int :=
  max (-(exponentLimit : Int)) (min ((exponentLimit : Int) - 1) e)

/-- Reads what follows the letter of an exponent. -/
def exponentPart (negative : Bool) (digits : Nat) (start : Int) : Reader Fault Number := fun cs =>
  let (down, rest) := takeSign cs
  if startsWithDigit rest then
    let (e, rest) := collect exponentLimit 0 rest
    if startsWithDigit rest then
      if digits ≠ 0 ∧ !down then .error .numberTooLarge
      else .ok (.real (if negative then -0.0 else 0.0), skipDigits rest)
    else do
      let x ← scale negative digits (clampExponent (if down then start - e else start + e))
      return (.real x, rest)
  else .error (digitFault rest)

/-- Reads an exponent, if there is one, after the digits of a numeral. -/
def exponentOrEnd (negative : Bool) (digits : Nat) (start : Int) : Reader Fault Number
  | 'e' :: rest => exponentPart negative digits start rest
  | 'E' :: rest => exponentPart negative digits start rest
  | rest => do return (.real (← scale negative digits start), rest)

/-- Reads what follows the point of a numeral. -/
def fractionPart (negative : Bool) (digits : Nat) (start : Int) : Reader Fault Number := fun cs =>
  if startsWithDigit cs then
    let (n, rest) := collect wordLimit digits cs
    exponentOrEnd negative n (start - ((cs.length - rest.length : Nat) : Int)) (skipDigits rest)
  else .error (digitFault cs)

/-- A numeral without point and exponent. -/
def wholeNumber (negative : Bool) (n : Nat) : Number :=
  if negative then
    if n = 0 ∨ n > 0x8000000000000000 then .real (-(nearest n 1)) else .integer (-(n : Int))
  else .integer n

/-- Reads what follows the digits before the point, all of which fit. -/
def afterWhole (negative : Bool) (n : Nat) : Reader Fault Number
  | '.' :: rest => fractionPart negative n 0 rest
  | 'e' :: rest => exponentPart negative n 0 rest
  | 'E' :: rest => exponentPart negative n 0 rest
  | rest => .ok (wholeNumber negative n, rest)

/-- Reads what follows `n` when `excess` further digits did not fit. -/
def afterExcess (negative : Bool) (n excess : Nat) : Reader Fault Number
  | '.' :: rest => fractionPart negative n excess rest
  | rest => exponentOrEnd negative n excess rest

/-- Reads a numeral after its sign. -/
def unsignedNumeral (negative : Bool) : Reader Fault Number
  | [] => .error .endInValue
  | c :: rest =>
    if c = '0' then
      if startsWithDigit rest then .error .badNumber else afterWhole negative 0 rest
    else if c.isDigit then
      let (n, rest) := collect wordLimit 0 (c :: rest)
      if startsWithDigit rest then
        let after := skipDigits rest
        afterExcess negative n (rest.length - after.length) after
      else afterWhole negative n rest
    else .error .badNumber

def numeral : Reader Fault Number
  | '-' :: rest => unsignedNumeral true rest
  | cs => unsignedNumeral false cs

end ServiceCompiler.Json
