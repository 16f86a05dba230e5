/-! # Faults of document texts -/

namespace ServiceCompiler.Json

inductive Fault
  | endInList
  | endInObject
  | endInString
  | endInValue
  | colonExpected
  | commaOrBracketExpected
  | commaOrBraceExpected
  | wordExpected
  | valueExpected
  | badEscape
  | badNumber
  | numberTooLarge
  | controlCharacter
  | keyNotString
  | loneSurrogate
  | trailingComma
  | trailingText
  | cutSurrogate
  | tooDeep
  deriving DecidableEq, Repr

namespace Fault

/-- Whether the text stops too early, so that more text could mend it. -/
def isEnd : Fault → Bool
  | endInList | endInObject | endInString | endInValue => true
  | _ => false

def message : Fault → String
  | endInList => "EOF while parsing a list"
  | endInObject => "EOF while parsing an object"
  | endInString => "EOF while parsing a string"
  | endInValue => "EOF while parsing a value"
  | colonExpected => "expected `:`"
  | commaOrBracketExpected => "expected `,` or `]`"
  | commaOrBraceExpected => "expected `,` or `\x7d`"
  | wordExpected => "expected ident"
  | valueExpected => "expected value"
  | badEscape => "invalid escape"
  | badNumber => "invalid number"
  | numberTooLarge => "number out of range"
  | controlCharacter => "control character (\\u0000-\\u001F) found while parsing a string"
  | keyNotString => "key must be a string"
  | loneSurrogate => "lone leading surrogate in hex escape"
  | trailingComma => "trailing comma"
  | trailingText => "trailing characters"
  | cutSurrogate => "unexpected end of hex escape"
  | tooDeep => "recursion limit exceeded"

end Fault

/-- Reads a value off the front of a text and returns what follows it. -/
abbrev Reader (ε α : Type) : Type := List Char → Except ε (α × List Char)

end ServiceCompiler.Json
