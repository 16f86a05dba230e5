import ServiceCompiler.Core.Dump
import ServiceCompiler.Plan.Match
import ServiceCompiler.Text.Quoted

/-! # Rust names, types and literals -/

namespace ServiceCompiler.Rust

open ServiceCompiler.Core (Ty)
open Plan (Access Check)
open Text (join doubleQuoted)

/-- Words that are identifiers only with `r#` in front. -/
def keywords : List String :=
  ["as", "async", "await", "break", "const", "continue", "dyn", "else", "enum", "extern", "false",
    "fn", "for", "if", "impl", "in", "let", "loop", "match", "mod", "move", "mut", "pub", "ref",
    "return", "static", "struct", "trait", "true", "type", "unsafe", "use", "where", "while",
    "abstract", "become", "box", "do", "final", "macro", "override", "priv", "try", "typeof",
    "unsized", "virtual", "yield"]

/-- Words that are never identifiers. -/
def reserved : List String := ["self", "Self", "super", "crate", "_"]

/-- A name that is no word of the language. -/
def ident (name : String) : String :=
  if reserved.contains name then s!"{name}_"
  else if keywords.contains name then s!"r#{name}"
  else name

def genericText (name : String) (texts : List String) : String :=
  match name, texts with
  | "List", [element] => s!"Vec<{element}>"
  | "Array", [element] => s!"Vec<{element}>"
  | "Map", [_, value] => s!"HashMap<String, {value}>"
  | "Dict", [_, value] => s!"HashMap<String, {value}>"
  | "Record", [_, value] => s!"HashMap<String, {value}>"
  | _, [] => name
  | _, texts => name ++ "<" ++ join ", " texts ++ ">"

mutual

/-- The spelling of a type; what has no static counterpart is a `Value`. -/
def typeText : Ty → String
  | .int => "i64"
  | .float => "f64"
  | .string => "String"
  | .bool => "bool"
  | .any => "Value"
  | .array element => s!"Vec<{typeText element}>"
  | .optional inner => s!"Option<{typeText inner}>"
  | .future result => typeText result
  | .union _ => "Value"
  | .generic name args => genericText name (typeTexts args)
  | .named name => name
  | .provider name => name
  | .function _ _ => "Value"

def typeTexts : List Ty → List String
  | [] => []
  | t :: ts => typeText t :: typeTexts ts

end

/-- The parameters of a generic declaration, bound so that their values can become a `Value`. -/
def boundParams (params : List String) : String :=
  if params.isEmpty then "" else "<" ++ join ", " (params.map fun p => s!"{p}: Serialize") ++ ">"

/-- A `Value` from a text in the notation of documents. -/
def json (text : String) : String := s!"json!({text})"

def floatText (x : Float) : String :=
  if Decimal.isFinite x then json (Core.displayFloat x) else "Value::Null"

def literalText : Literal → String
  | .int n => json (toString n.toInt)
  | .float x => floatText x
  | .string s => json (doubleQuoted s)
  | .bool b => json (toString b)
  | .null => "Value::Null"

def objectText (members : List String) : String :=
  json (if members.isEmpty then "\x7b\x7d" else "\x7b " ++ join ", " members ++ " \x7d")

def accessText (target : String) : Access → String
  | .key name => s!"{target}[{doubleQuoted name}]"
  | .index i => s!"{target}[{i}]"
  | .restFrom i => s!"rt::rest(&{target}, {i})"

/-- The part of the subject of a match at the end of a path. -/
def subjectAt (path : List Access) : String := path.foldl accessText "__subject"

/-- Whether a path leads to a place inside the subject, and not to a new value. -/
def isPlace (path : List Access) : Bool :=
  path.all fun
    | .restFrom _ => false
    | _ => true

/-- The value of a variable that is bound to a part of the subject. -/
def boundText (path : List Access) : String :=
  if isPlace path then s!"{subjectAt path}.clone()" else subjectAt path

def checkText : Check → String
  | .isObject path => s!"{subjectAt path}.is_object()"
  | .hasKey path key => s!"{subjectAt path}.get({doubleQuoted key}).is_some()"
  | .arrayLength path length exact =>
    let op := if exact then "==" else ">="
    s!"{subjectAt path}.as_array().is_some_and(|items| items.len() {op} {length})"
  | .equals path value => s!"{subjectAt path} == {literalText value}"

/-- A value of a type from a text of the query or the command line. -/
def parseText (raw : String) (t : Ty) : String :=
  match t.present with
  | .string => s!"Value::String({raw}.to_string())"
  | _ => s!"rt::parse(&{raw})"

end ServiceCompiler.Rust
