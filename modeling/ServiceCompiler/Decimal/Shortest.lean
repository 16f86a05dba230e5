import ServiceCompiler.Decimal.Binary64

/-! # The fewest digits that read back

Of all decimals that round to a given double, the one with the fewest digits, and of these the one
closest to the double. -/

namespace ServiceCompiler.Decimal

/-- Which of two equally close decimals to take. -/
inductive Tie
  | up
  | even
  deriving DecidableEq, Repr

/-- A positive decimal in scientific form: `d.ddd · 10 ^ exponent` with the digits of `digits`. -/
structure Scientific where
  digits : List Char
  exponent : Int
  deriving DecidableEq, Repr

def digitCount (n : Nat) : Nat := (Nat.toDigits 10 n).length

/-- The power of ten of the leading digit of `num / den`. -/
def leadingPower (num den : Nat) : Int :=
  if den ≤ num then (digitCount (num / den) : Int) - 1
  else -(digitCount ((den + num - 1) / num - 1) : Int)

/-- The fraction `significand · 2 ^ exponent` as numerator and denominator. -/
def Binary.fraction (x : Binary) : Nat × Nat :=
  if x.exponent ≥ 0 then (x.significand * Nat.pow 2 x.exponent.toNat, 1)
  else (x.significand, Nat.pow 2 (-x.exponent).toNat)

/-- Whether `grid · 10 ^ power` rounds to `x`. Both gaps to the neighbouring doubles are halved, the
lower one once more below a power of two, and the ends count when the significand is even. -/
def Binary.covers (x : Binary) (grid : Nat) (power : Int) : Bool :=
  -- everything in quarters of the unit of `x`, over one denominator
  let scaled := 4 * grid * Nat.pow 10 power.toNat * Nat.pow 2 (-x.exponent).toNat
  let unit := Nat.pow 10 (-power).toNat * Nat.pow 2 x.exponent.toNat
  let lowerGap := if x.significand = hiddenBit ∧ x.exponent > -1074 then 1 else 2
  let low := (4 * x.significand - lowerGap) * unit
  let high := (4 * x.significand + 2) * unit
  if x.significand % 2 = 0 then low ≤ scaled && scaled ≤ high
  else low < scaled && scaled < high

/-- The decimal of `places` digits closest to `x` among those that round to `x`. -/
def Binary.atPlaces (tie : Tie) (x : Binary) (places : Nat) : Option (Nat × Int) :=
  let (num, den) := x.fraction
  let power := leadingPower num den - (places : Int) + 1
  let top := num * Nat.pow 10 (-power).toNat
  let bottom := den * Nat.pow 10 power.toNat
  let below := top / bottom
  let twice := 2 * (top % bottom)
  let above := if twice = 0 then below else below + 1
  match x.covers below power, x.covers above power with
  | true, true =>
    if twice < bottom then some (below, power)
    else if bottom < twice then some (above, power)
    else
      match tie with
      | .up => some (above, power)
      | .even => some (if below % 2 = 0 then below else above, power)
  | true, false => some (below, power)
  | false, true => some (above, power)
  | false, false => none

/-- Searches from `places` digits on; seventeen always suffice. -/
def Binary.search (tie : Tie) (x : Binary) : Nat → Nat → Nat × Int
  | 0, places => (x.atPlaces tie places).getD (0, 0)
  | steps + 1, places => (x.atPlaces tie places).getD (x.search tie steps (places + 1))

def dropTrailingZeros (digits : List Char) : List Char :=
  (digits.reverse.dropWhile (· == '0')).reverse

/-- The shortest decimal that rounds to `x`. -/
def Binary.shortest (tie : Tie) (x : Binary) : Scientific :=
  let (grid, power) := x.search tie 16 1
  let digits := Nat.toDigits 10 grid
  ⟨dropTrailingZeros digits, power + (digits.length : Int) - 1⟩

end ServiceCompiler.Decimal
