import ServiceCompiler.Core.Dump
import ServiceCompiler.Plan.Match
import ServiceCompiler.Text.Quoted

/-! # Python types and literals -/

namespace ServiceCompiler.Python

open ServiceCompiler.Core (Ty)
open Plan (Access Check)
open Text (join doubleQuoted)

mutual

def typeText : Ty → String
  | .int => "int"
  | .float => "float"
  | .string => "str"
  | .bool => "bool"
  | .any => "Any"
  | .array element => s!"List[{typeText element}]"
  | .optional inner => s!"Optional[{typeText inner}]"
  | .future result => typeText result
  | .union [] => "Any"
  | .union (t :: ts) => "Union[" ++ join ", " (typeTexts (t :: ts)) ++ "]"
  | .generic name args =>
    match name, typeTexts args with
    | "List", [element] => s!"List[{element}]"
    | "Array", [element] => s!"List[{element}]"
    | "Map", [key, value] => s!"Dict[{key}, {value}]"
    | "Dict", [key, value] => s!"Dict[{key}, {value}]"
    | _, [] => name
    | _, texts => name ++ "[" ++ join ", " texts ++ "]"
  | .named name => name
  | .provider name => name
  | .function params result =>
    "Callable[[" ++ join ", " (typeTexts params) ++ "], " ++ typeText result ++ "]"

def typeTexts : List Ty → List String
  | [] => []
  | t :: ts => typeText t :: typeTexts ts

end

def optionalType (text : String) : String := s!"Optional[{text}]"

def resolverType : Ty → String
  | .int => "int"
  | .float => "float"
  | .string => "str"
  | .bool => "bool"
  | .optional inner => optionalType (resolverType inner)
  | .array element => s!"List[{resolverType element}]"
  | .any | .future _ | .union _ | .generic _ _ | .named _ | .provider _ | .function _ _ => "JSON"

def floatText (x : Float) : String :=
  match Decimal.magnitude x with
  | .nan => "float(\"nan\")"
  | .infinite => if Decimal.isNegative x then "float(\"-inf\")" else "float(\"inf\")"
  | _ => Core.displayFloat x

def boolText : Bool → String
  | true => "True"
  | false => "False"

def literalText : Literal → String
  | .int n => toString n.toInt
  | .float x => floatText x
  | .string s => doubleQuoted s
  | .bool b => boolText b
  | .null => "None"

def binaryText : BinaryOp → String
  | .and => "and"
  | .or => "or"
  | op => Core.binarySymbol op

def accessText : Access → String
  | .key name => s!"[{doubleQuoted name}]"
  | .index i => s!"[{i}]"
  | .restFrom i => s!"[{i}:]"

/-- The part of the subject of a match at the end of a path. -/
def subjectAt (path : List Access) : String := "__subject" ++ String.join (path.map accessText)

def checkText : Check → String
  | .isObject path => s!"isinstance({subjectAt path}, dict)"
  | .hasKey path key => s!"{doubleQuoted key} in {subjectAt path}"
  | .arrayLength path length exact =>
    let target := subjectAt path
    let op := if exact then "==" else ">="
    s!"isinstance({target}, list) and len({target}) {op} {length}"
  | .equals path value => s!"{subjectAt path} == {literalText value}"

end ServiceCompiler.Python
