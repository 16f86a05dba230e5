import ServiceCompiler.Decimal.Shortest

/-! # Writing doubles

The digits are the shortest that read back; a layout says which exponents are written
positionally, how an exponent is written otherwise, and which way a tie goes. -/

namespace ServiceCompiler.Decimal

structure Layout where
  /-- The least exponent that is written positionally. -/
  least : Int
  /-- The least exponent above `least` that is not written positionally. -/
  limit : Int
  /-- Whether a positive exponent carries its sign. -/
  plus : Bool
  tie : Tie

/-- Digits with the decimal point after the one of exponent zero; at least one digit follows it. -/
def positional (digits : List Char) (exponent : Int) : List Char :=
  if exponent < 0 then '0' :: '.' :: List.replicate (-exponent - 1).toNat '0' ++ digits
  else
    let whole := exponent.toNat + 1
    let padded := digits ++ List.replicate (whole - digits.length) '0'
    let fraction := padded.drop whole
    padded.take whole ++ '.' :: (if fraction.isEmpty then ['0'] else fraction)

/-- One digit, the other digits after a point, and the exponent. -/
def exponential (plus : Bool) (digits : List Char) (exponent : Int) : List Char :=
  let mantissa :=
    match digits with
    | [] => []
    | [d] => [d]
    | d :: rest => d :: '.' :: rest
  let sign := if exponent < 0 then ['-'] else if plus then ['+'] else []
  mantissa ++ 'e' :: sign ++ Nat.toDigits 10 exponent.natAbs

def Layout.scientific (layout : Layout) (x : Scientific) : List Char :=
  if layout.least ≤ x.exponent ∧ x.exponent < layout.limit then positional x.digits x.exponent
  else exponential layout.plus x.digits x.exponent

def Layout.render (layout : Layout) (x : Float) : String :=
  let sign := if isNegative x then ['-'] else []
  match magnitude x with
  | .nan => "NaN"
  | .infinite => String.ofList (sign ++ ['i', 'n', 'f'])
  | .zero => String.ofList (sign ++ ['0', '.', '0'])
  | .positive value => String.ofList (sign ++ layout.scientific (value.shortest layout.tie))

/-- How generated programs and dumps write a double: positionally from `0.0001` up to below
`1e16`. -/
def source : Layout := ⟨-4, 16, false, .up⟩

/-- How documents write a double: positionally from `0.00001` up to below `1e+16`. -/
def document : Layout := ⟨-5, 16, true, .even⟩

end ServiceCompiler.Decimal
