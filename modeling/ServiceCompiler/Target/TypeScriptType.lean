import ServiceCompiler.Core.Dump
import ServiceCompiler.Plan.Match
import ServiceCompiler.Text.Identifier
import ServiceCompiler.Text.Quoted

/-! # TypeScript types and literals -/

namespace ServiceCompiler.TypeScript

open ServiceCompiler.Core (Ty)
open Plan (Access Check)
open Text (join singleQuoted)

/-- Whether a type has to stand in parentheses in front of `[]`. -/
def isCompound : Ty → Bool
  | .union _ | .optional _ | .function _ _ => true
  | _ => false

def arrayText (element : Ty) (text : String) : String :=
  if isCompound element then s!"({text})[]" else s!"{text}[]"

/-- Parameters of a function type, numbered from `n` on. -/
def numberedParams (n : Nat) : List String → List String
  | [] => []
  | text :: texts => s!"arg{n}: {text}" :: numberedParams (n + 1) texts

def genericText (name : String) (args : List Ty) (texts : List String) : String :=
  match name, args, texts with
  | "List", [element], [text] => arrayText element text
  | "Array", [element], [text] => arrayText element text
  | "Map", [_, _], [key, value] => s!"Record<{key}, {value}>"
  | "Dict", [_, _], [key, value] => s!"Record<{key}, {value}>"
  | "Record", [_, _], [key, value] => s!"Record<{key}, {value}>"
  | _, [], _ => name
  | _, _, _ => name ++ "<" ++ join ", " texts ++ ">"

mutual

def typeText : Ty → String
  | .int => "number"
  | .float => "number"
  | .string => "string"
  | .bool => "boolean"
  | .any => "any"
  | .array element => arrayText element (typeText element)
  | .optional inner => s!"{typeText inner} | null"
  | .future result => s!"Promise<{typeText result}>"
  | .union [] => "never"
  | .union (t :: ts) => join " | " (typeTexts (t :: ts))
  | .generic name args => genericText name args (typeTexts args)
  | .named name => name
  | .provider name => name
  | .function params result =>
    "(" ++ join ", " (numberedParams 0 (typeTexts params)) ++ ") => " ++ typeText result

def typeTexts : List Ty → List String
  | [] => []
  | t :: ts => typeText t :: typeTexts ts

end

def floatText (x : Float) : String :=
  match Decimal.magnitude x with
  | .nan => "NaN"
  | .infinite => if Decimal.isNegative x then "-Infinity" else "Infinity"
  | _ => Core.displayFloat x

def literalText : Literal → String
  | .int n => toString n.toInt
  | .float x => floatText x
  | .string s => singleQuoted s
  | .bool b => toString b
  | .null => "null"

def binaryText : BinaryOp → String
  | .eq => "==="
  | .ne => "!=="
  | op => Core.binarySymbol op

/-- The key of a property; only an identifier stands without quotes. -/
def keyText (key : String) : String := if Text.isIdentifier key then key else singleQuoted key

def objectText (properties : List String) : String :=
  if properties.isEmpty then "\x7b\x7d" else "\x7b " ++ join ", " properties ++ " \x7d"

def accessText : Access → String
  | .key name => s!"[{singleQuoted name}]"
  | .index i => s!"[{i}]"
  | .restFrom i => s!".slice({i})"

/-- The part of the subject of a match at the end of a path. -/
def subjectAt (path : List Access) : String := "__subject" ++ String.join (path.map accessText)

def checkText : Check → String
  | .isObject path =>
    let target := subjectAt path
    s!"(typeof {target} === 'object' && {target} !== null && !Array.isArray({target}))"
  | .hasKey path key => s!"{singleQuoted key} in {subjectAt path}"
  | .arrayLength path length exact =>
    let target := subjectAt path
    let op := if exact then "===" else ">="
    s!"Array.isArray({target}) && {target}.length {op} {length}"
  | .equals path value => s!"{subjectAt path} === {literalText value}"

end ServiceCompiler.TypeScript
