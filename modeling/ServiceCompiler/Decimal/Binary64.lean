/-! # Double-precision numbers as binary fractions

A finite double is `significand · 2 ^ exponent` up to sign. `nearest` goes the other way and rounds
a fraction to the closest double, a tie to the one with the even significand. -/

namespace ServiceCompiler.Decimal

/-- A positive double, as `significand · 2 ^ exponent`. -/
structure Binary where
  significand : Nat
  exponent : Int
  deriving DecidableEq, Repr

inductive Magnitude
  | nan
  | infinite
  | zero
  | positive (value : Binary)
  deriving DecidableEq, Repr

/-- The leading bit of a significand of full length, the fifty-third. -/
def hiddenBit : Nat := 0x10000000000000

def isNegative (x : Float) : Bool :=
  x.toBits.toNat / 0x8000000000000000 == 1

def magnitude (x : Float) : Magnitude :=
  let bits := x.toBits.toNat
  let fraction := bits % hiddenBit
  let biased : Nat := bits / hiddenBit % 2048
  if biased = 2047 then
    if fraction = 0 then .infinite else .nan
  else if biased = 0 then
    if fraction = 0 then .zero else .positive ⟨fraction, -1074⟩
  else .positive ⟨hiddenBit + fraction, (biased : Int) - 1075⟩

def isFinite (x : Float) : Bool :=
  match magnitude x with
  | .nan | .infinite => false
  | .zero | .positive _ => true

/-- `num / den` rounded to the closest number, a tie to the even one. -/
def roundToEven (num den : Nat) : Nat :=
  let quotient := num / den
  let twice := 2 * (num % den)
  if twice > den || (twice == den && quotient % 2 == 1) then quotient + 1 else quotient

/-- The bits of the double closest to `num / den`. -/
def nearestBits (num den : Nat) : Nat :=
  if num = 0 then 0
  else
    -- the exponent of the leading bit, at most one too large
    let estimate : Int := (num.log2 : Int) - den.log2
    let exact : Int :=
      if estimate ≥ 0 then (if num < den * Nat.pow 2 estimate.toNat then estimate - 1 else estimate)
      else (if num * Nat.pow 2 (-estimate).toNat < den then estimate - 1 else estimate)
    let exponent : Int := max (exact - 52) (-1074)
    let significand :=
      if exponent ≥ 0 then roundToEven num (den * Nat.pow 2 exponent.toNat)
      else roundToEven (num * Nat.pow 2 (-exponent).toNat) den
    let bits :=
      if significand < hiddenBit then significand
      else (exponent + 1075).toNat * hiddenBit + (significand - hiddenBit)
    min bits (2047 * hiddenBit)

/-- The double closest to `num / den`; beyond the largest one it is infinite. -/
def nearest (num den : Nat) : Float :=
  Float.ofBits (UInt64.ofNat (nearestBits num den))

/-- The double closest to `mantissa · 10 ^ exponent`. -/
def nearestDecimal (mantissa : Nat) (exponent : Int) : Float :=
  if exponent ≥ 0 then nearest (mantissa * Nat.pow 10 exponent.toNat) 1
  else nearest mantissa (Nat.pow 10 (-exponent).toNat)

end ServiceCompiler.Decimal
