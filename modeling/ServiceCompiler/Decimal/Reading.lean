import ServiceCompiler.Decimal.Binary64

/-! # Reading doubles

A number is an optional sign, digits with an optional point, and an optional exponent, and reads as
the closest double; `nan`, `inf` and `infinity` are read in any case. -/

namespace ServiceCompiler.Decimal

def digitValue (c : Char) : Nat := c.toNat - '0'.toNat

def digitsValue (ds : List Char) : Nat :=
  ds.foldl (fun n d => 10 * n + digitValue d) 0

def takeSign : List Char → Bool × List Char
  | '-' :: rest => (true, rest)
  | '+' :: rest => (false, rest)
  | rest => (false, rest)

def readExponent (cs : List Char) : Option Int :=
  let (negative, digits) := takeSign cs
  if digits.isEmpty || !digits.all Char.isDigit then none
  else some (if negative then -(digitsValue digits : Int) else digitsValue digits)

/-- A number that rounds to infinity. -/
def beyondDoubles : Nat := Nat.pow 2 1100

/-- The closest double to the unsigned number that the text spells. -/
def readMagnitude (cs : List Char) : Option Float :=
  let whole := cs.takeWhile Char.isDigit
  let afterWhole := cs.dropWhile Char.isDigit
  let (fraction, rest) :=
    match afterWhole with
    | '.' :: more => (more.takeWhile Char.isDigit, more.dropWhile Char.isDigit)
    | more => ([], more)
  if whole.isEmpty && fraction.isEmpty then none
  else
    let exponent :=
      match rest with
      | [] => some 0
      | c :: more => if c = 'e' || c = 'E' then readExponent more else none
    exponent.map fun e =>
      let mantissa := digitsValue (whole ++ fraction)
      let scale := e - (fraction.length : Int)
      -- far outside the range of doubles the exact power is not needed
      if mantissa = 0 then nearest 0 1
      else if scale + (whole.length + fraction.length : Int) < -400 then nearest 0 1
      else if scale > 400 then nearest beyondDoubles 1
      else nearestDecimal mantissa scale

def read? (s : String) : Option Float :=
  let (negative, rest) := takeSign s.toList
  let word := String.ofList (rest.map Char.toLower)
  let value :=
    if word = "nan" then some (Float.ofBits 0x7ff8000000000000)
    else if word = "inf" || word = "infinity" then some (nearest beyondDoubles 1)
    else readMagnitude rest
  value.map fun x => if negative then -x else x

end ServiceCompiler.Decimal
