import ServiceCompiler.Json.Reader

/-! # Passing over documents

A value that nobody asks for is only passed over: it may nest to any depth, its numbers have any
size and its strings hold any escapes of the right form. -/

namespace ServiceCompiler.Json

def skipExponent : Reader Fault Unit := fun cs =>
  let (_, rest) := Decimal.takeSign cs
  if startsWithDigit rest then .ok ((), skipDigits rest) else .error .badNumber

def skipAfterDigits : Reader Fault Unit
  | 'e' :: rest => skipExponent rest
  | 'E' :: rest => skipExponent rest
  | rest => .ok ((), rest)

def skipNumeral : Reader Fault Unit
  | [] => .error .badNumber
  | c :: rest =>
    if !c.isDigit || (c = '0' && startsWithDigit rest) then .error .badNumber
    else
      match skipDigits rest with
      | '.' :: rest =>
        if startsWithDigit rest then skipAfterDigits (skipDigits rest) else .error .badNumber
      | rest => skipAfterDigits rest

def skipScalar : Reader Fault Unit
  | [] => .error .endInValue
  | c :: rest =>
    if c = 'n' then wordRest ['u', 'l', 'l'] rest
    else if c = 't' then wordRest ['r', 'u', 'e'] rest
    else if c = 'f' then wordRest ['a', 'l', 's', 'e'] rest
    else if c = '"' then skipQuoted rest
    else if c = '-' then skipNumeral rest
    else if c.isDigit then skipNumeral (c :: rest)
    else .error .valueExpected

def skipElements (element : Reader Fault Unit) : Nat → Bool → Reader Fault Unit
  | 0, _, _ => .error .endInList
  | steps + 1, first, cs =>
    let more (cs : List Char) : Except Fault (Unit × List Char) := do
      let (_, rest) ← element cs
      skipElements element steps false rest
    match skipBlanks cs with
    | [] => .error .endInList
    | c :: rest =>
      if c = ']' then .ok ((), rest)
      else if first then more (c :: rest)
      else if c = ',' then more rest
      else .error .commaOrBracketExpected

def skipMembers (element : Reader Fault Unit) : Nat → Bool → Reader Fault Unit
  | 0, _, _ => .error .endInObject
  | steps + 1, first, cs =>
    let more (cs : List Char) : Except Fault (Unit × List Char) := do
      match skipBlanks cs with
      | [] => throw .endInObject
      | c :: rest =>
        if c = '"' then
          let (_, rest) ← skipQuoted rest
          let (_, rest) ← colon rest
          let (_, rest) ← element rest
          skipMembers element steps false rest
        else throw .keyNotString
    match skipBlanks cs with
    | [] => .error .endInObject
    | c :: rest =>
      if c = '}' then .ok ((), rest)
      else if first then more (c :: rest)
      else if c = ',' then more rest
      else .error .commaOrBraceExpected

/-- Passes over a value that nests at most `depth` deep. -/
def skipValue : Nat → Reader Fault Unit
  | 0, cs => skipScalar (skipBlanks cs)
  | depth + 1, cs =>
    match skipBlanks cs with
    | '[' :: rest => skipElements (skipValue depth) (rest.length + 1) true rest
    | '{' :: rest => skipMembers (skipValue depth) (rest.length + 1) true rest
    | cs => skipScalar cs

/-- Passes over a value; no value nests deeper than its text is long. -/
def skip : Reader Fault Unit := fun cs => skipValue cs.length cs

end ServiceCompiler.Json
