import ServiceCompiler.Decimal.Layout
import ServiceCompiler.Json.Value
import ServiceCompiler.Surface.Layout
import ServiceCompiler.Text.Shown
import ServiceCompiler.Text.Split

/-! # Documents of the wrong shape -/

namespace ServiceCompiler.Surface

/-- What a document is, without the parts of a list or an object. -/
inductive Form
  | null
  | flag (b : Bool)
  | integer (n : Int)
  | real (x : Float)
  | text (s : String)
  | list
  | object
  deriving BEq

def Form.of : Json → Form
  | .null => .null
  | .bool b => .flag b
  | .number (.integer n) => .integer n
  | .number (.real x) => .real x
  | .string s => .text s
  | .array _ => .list
  | .object _ => .object

def Form.phrase : Form → String
  | .null => "null"
  | .flag b => s!"boolean `{b}`"
  | .integer n => s!"integer `{n}`"
  | .real x => s!"floating point `{Decimal.document.render x}`"
  | .text s => s!"string {Text.shown s}"
  | .list => "sequence"
  | .object => "map"

/-- What a place in a document asks for. -/
inductive Expected
  | text
  | flag
  | list
  | count
  | integer
  | float
  | unit
  | nullLiteral
  | literal
  | kind
  | choice
  | node (family : Family)
  | layout (title : String)
  deriving DecidableEq, Repr

def Expected.phrase : Expected → String
  | .text => "a string"
  | .flag => "a boolean"
  | .list => "a sequence"
  | .count => "u32"
  | .integer => "i64"
  | .float => "f64"
  | .unit => "unit"
  | .nullLiteral => "unit variant Literal::Null"
  | .literal => "adjacently tagged enum Literal"
  | .kind => "variant identifier"
  | .choice => "string or map"
  | .node family => s!"internally tagged enum {family.name}"
  | .layout title => title

/-- Why a document does not have the shape that its place asks for. -/
inductive ShapeError
  | missing (field : String)
  | duplicate (field : String)
  | mismatch (found : Form) (expected : Expected)
  | outOfRange (n : Int) (expected : Expected)
  | severalKeys
  | unknownName (name : String) (names : List String)
  | tooShort (length : Nat) (expected : String)
  | tooLong (length taken : Nat)

def elementCount (n : Nat) : String :=
  if n = 1 then "1 element" else s!"{n} elements"

/-- The names that may stand in a place. -/
def oneOf (names : List String) : String :=
  let ticked := names.map fun name => s!"`{name}`"
  match ticked with
  | [] => "there are no variants"
  | [a] => s!"expected {a}"
  | [a, b] => s!"expected {a} or {b}"
  | _ => "expected one of " ++ Text.join ", " ticked

def ShapeError.message : ShapeError → String
  | missing field => s!"missing field `{field}`"
  | duplicate field => s!"duplicate field `{field}`"
  | mismatch found expected => s!"invalid type: {found.phrase}, expected {expected.phrase}"
  | outOfRange n expected => s!"invalid value: integer `{n}`, expected {expected.phrase}"
  | severalKeys => "invalid value: map, expected map with a single key"
  | unknownName name names => s!"unknown variant `{name}`, {oneOf names}"
  | tooShort length expected => s!"invalid length {length}, expected {expected}"
  | tooLong length taken => s!"invalid length {length}, expected {elementCount taken} in sequence"

end ServiceCompiler.Surface
