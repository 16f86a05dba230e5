import ServiceCompiler.Decimal.Layout
import ServiceCompiler.Json.Quoted
import ServiceCompiler.Json.Value

/-! # Writing documents

`compact` writes a document without blanks; `pretty` gives each element and each member a line of
its own, indented by two spaces a level. -/

namespace ServiceCompiler.Json

/-- The text of a number; a double that is no number is written as `null`. -/
def writeNumber : Number → List Char
  | .integer n => (toString n).toList
  | .real x =>
    if Decimal.isFinite x then (Decimal.document.render x).toList else ['n', 'u', 'l', 'l']

def writeBool : Bool → List Char
  | true => ['t', 'r', 'u', 'e']
  | false => ['f', 'a', 'l', 's', 'e']

mutual

def compactChars : Json → List Char
  | null => ['n', 'u', 'l', 'l']
  | bool b => writeBool b
  | number n => writeNumber n
  | string s => writeString s
  | array items => '[' :: compactElements items ++ [']']
  | object ms => '{' :: compactMembers ms ++ ['}']

def compactElements : List Json → List Char
  | [] => []
  | [v] => compactChars v
  | v :: rest => compactChars v ++ ',' :: compactElements rest

def compactMembers : List (String × Json) → List Char
  | [] => []
  | [(key, v)] => writeString key ++ ':' :: compactChars v
  | (key, v) :: rest => writeString key ++ ':' :: compactChars v ++ ',' :: compactMembers rest

end

def compact (v : Json) : String := String.ofList (compactChars v)

/-- A line break and the indentation of a level. -/
def newLine (level : Nat) : List Char := '\n' :: List.replicate (2 * level) ' '

mutual

def prettyChars (level : Nat) : Json → List Char
  | null => ['n', 'u', 'l', 'l']
  | bool b => writeBool b
  | number n => writeNumber n
  | string s => writeString s
  | array [] => ['[', ']']
  | array (v :: rest) => '[' :: prettyElements (level + 1) (v :: rest) ++ newLine level ++ [']']
  | object [] => ['{', '}']
  | object (m :: rest) => '{' :: prettyMembers (level + 1) (m :: rest) ++ newLine level ++ ['}']

def prettyElements (level : Nat) : List Json → List Char
  | [] => []
  | [v] => newLine level ++ prettyChars level v
  | v :: rest => newLine level ++ prettyChars level v ++ ',' :: prettyElements level rest

def prettyMembers (level : Nat) : List (String × Json) → List Char
  | [] => []
  | [(key, v)] => newLine level ++ writeString key ++ [':', ' '] ++ prettyChars level v
  | (key, v) :: rest =>
    newLine level ++ writeString key ++ [':', ' '] ++ prettyChars level v ++
      ',' :: prettyMembers level rest

end

def pretty (v : Json) : String := String.ofList (prettyChars 0 v)

end ServiceCompiler.Json
