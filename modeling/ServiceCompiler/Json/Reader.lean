import ServiceCompiler.Json.Numeral
import ServiceCompiler.Json.Quoted

/-! # Reading documents

`elements` and `members` walk a list or an object and leave its parts to a reader of the caller, so
that a part can be judged before the text behind it is read. `value` reads a whole document that
nests at most `depth` deep. -/

namespace ServiceCompiler.Json

variable {ε α : Type}

def isBlank (c : Char) : Bool := c = ' ' || c = '\n' || c = '\t' || c = '\r'

def skipBlanks (cs : List Char) : List Char := cs.dropWhile isBlank

def wordRest (expected : List Char) : Reader Fault Unit := fun cs =>
  match expected, cs with
  | [], cs => .ok ((), cs)
  | _ :: _, [] => .error .endInValue
  | e :: es, c :: rest => if c = e then wordRest es rest else .error .wordExpected

/-- Reads the elements of a list after its opening bracket. -/
def elementsFrom (raise : Fault → ε) (element : Reader ε α) : Nat → Bool → Reader ε (List α)
  | 0, _, _ => .error (raise .endInList)
  | steps + 1, first, cs =>
    let more (cs : List Char) : Except ε (List α × List Char) := do
      let (x, rest) ← element cs
      let (xs, rest) ← elementsFrom raise element steps false rest
      return (x :: xs, rest)
    match skipBlanks cs with
    | [] => .error (raise .endInList)
    | c :: rest =>
      if c = ']' then .ok ([], rest)
      else if first then more (c :: rest)
      else if c = ',' then
        match skipBlanks rest with
        | [] => .error (raise .endInValue)
        | d :: rest => if d = ']' then .error (raise .trailingComma) else more (d :: rest)
      else .error (raise .commaOrBracketExpected)

def elements (raise : Fault → ε) (element : Reader ε α) : Reader ε (List α) := fun cs =>
  elementsFrom raise element (cs.length + 1) true cs

def colon : Reader Fault Unit := fun cs =>
  match skipBlanks cs with
  | [] => .error .endInObject
  | c :: rest => if c = ':' then .ok ((), rest) else .error .colonExpected

/-- Reads the members of an object after its opening brace. The reader of a member is given the
keys before it and its own key, and starts at the colon. -/
def membersFrom (raise : Fault → ε) (member : List String → String → Reader ε α) :
    Nat → Bool → List String → Reader ε (List α)
  | 0, _, _, _ => .error (raise .endInObject)
  | steps + 1, first, seen, cs =>
    let more (cs : List Char) : Except ε (List α × List Char) := do
      let (key, rest) ← (quoted cs).mapError raise
      let (x, rest) ← member seen key rest
      let (xs, rest) ← membersFrom raise member steps false (key :: seen) rest
      return (x :: xs, rest)
    match skipBlanks cs with
    | [] => .error (raise .endInObject)
    | c :: rest =>
      if c = '}' then .ok ([], rest)
      else if first then
        if c = '"' then more rest else .error (raise .keyNotString)
      else if c = ',' then
        match skipBlanks rest with
        | [] => .error (raise .endInValue)
        | d :: rest =>
          if d = '"' then more rest
          else if d = '}' then .error (raise .trailingComma)
          else .error (raise .keyNotString)
      else .error (raise .commaOrBraceExpected)

def members (raise : Fault → ε) (member : List String → String → Reader ε α) : Reader ε (List α) :=
  fun cs => membersFrom raise member (cs.length + 1) true [] cs

/-- Reads a value that is neither a list nor an object. -/
def scalar : Reader Fault Json
  | [] => .error .endInValue
  | c :: rest =>
    if c = 'n' then do
      let (_, rest) ← wordRest ['u', 'l', 'l'] rest
      return (null, rest)
    else if c = 't' then do
      let (_, rest) ← wordRest ['r', 'u', 'e'] rest
      return (bool true, rest)
    else if c = 'f' then do
      let (_, rest) ← wordRest ['a', 'l', 's', 'e'] rest
      return (bool false, rest)
    else if c = '"' then do
      let (s, rest) ← quoted rest
      return (string s, rest)
    else if c = '-' || c.isDigit then do
      let (n, rest) ← numeral (c :: rest)
      return (number n, rest)
    else .error .valueExpected

/-- Reads a value in which at most `depth` lists and objects enclose one another. -/
def value : Nat → Reader Fault Json
  | 0, cs =>
    match skipBlanks cs with
    | '[' :: _ => .error .tooDeep
    | '{' :: _ => .error .tooDeep
    | cs => scalar cs
  | depth + 1, cs =>
    match skipBlanks cs with
    | '[' :: rest => do
      let (items, rest) ← elements id (value depth) rest
      return (array items, rest)
    | '{' :: rest => do
      let member (_ : List String) (key : String) : Reader Fault (String × Json) := fun cs => do
        let (_, rest) ← colon cs
        let (v, rest) ← value depth rest
        return ((key, v), rest)
      let (ms, rest) ← members id member rest
      return (object ms, rest)
    | cs => scalar cs

/-- The number of lists and objects that may enclose one another. -/
def depthLimit : Nat := 127

/-- Nothing but blanks may follow a document. -/
def ending (cs : List Char) : Except Fault Unit :=
  match skipBlanks cs with
  | [] => .ok ()
  | _ :: _ => .error .trailingText

/-- Reads a text as a document, however deep. -/
def parse (text : String) : Except Fault Json := do
  let cs := text.toList
  let (v, rest) ← value cs.length cs
  ending rest
  return v

end ServiceCompiler.Json
