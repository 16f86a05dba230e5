import ServiceCompiler.Decimal.Binary64
import ServiceCompiler.Surface.ShapeError

/-! # Documents that fit their layout

`conform` reads a document as the content of a shape. A record is an object or the list of its
fields in order; a node has a member `kind` besides its fields, or the kind in front of them. An
object's members are read in the order of the document, members that the layout does not know are
passed over, and missing fields are looked for last. -/

namespace ServiceCompiler.Surface

abbrev Conformed (α : Type) : Type := Except ShapeError α

def mismatch {α : Type} (v : Json) (expected : Expected) : Conformed α :=
  .error (.mismatch (.of v) expected)

/-- A word of a vocabulary stands as a string, or as the only key of an object with nothing
behind it. -/
def chosenName (names : List String) (v : Json) : Conformed String :=
  let known (s : String) : Conformed String :=
    if names.contains s then .ok s else .error (.unknownName s names)
  match v with
  | .string s => known s
  | .object [(key, content)] => do
    let name ← known key
    match content with
    | .null => return name
    | .object [] => return name
    | other => mismatch other .unit
  | .object _ => .error .severalKeys
  | other => mismatch other .choice

/-- The word of a vocabulary that has the given name. -/
def Choice.datum? (choice : Choice) (s : String) : Option Datum :=
  match choice with
  | .method => (pickNamed HttpMethod.all HttpMethod.name s).map .method
  | .stream => (pickNamed StreamMode.all StreamMode.name s).map .stream
  | .operation => (pickNamed Operation.all Operation.name s).map .operation
  | .event => (pickNamed SocketEvent.all SocketEvent.name s).map .event
  | .binary => (pickNamed BinaryOp.all BinaryOp.name s).map .binary
  | .unary => (pickNamed UnaryOp.all UnaryOp.name s).map .unary

def conformChoice (choice : Choice) (v : Json) : Conformed Datum := do
  let name ← chosenName choice.names v
  match choice.datum? name with
  | some d => return d
  | none => throw (.unknownName name choice.names)

def conformCount : Json → Conformed Datum
  | .number (.integer n) =>
    if 0 ≤ n ∧ n < 0x100000000 then .ok (.count (UInt32.ofNat n.toNat))
    else .error (.outOfRange n .count)
  | v => mismatch v .count

inductive LiteralKind
  | int | float | string | bool | null
  deriving DecidableEq, Repr

namespace LiteralKind

def all : List LiteralKind := [int, float, string, bool, null]

def name : LiteralKind → String
  | int => "int"
  | float => "float"
  | string => "string"
  | bool => "bool"
  | null => "null"

end LiteralKind

def literalKind (v : Json) : Conformed LiteralKind := do
  let names := LiteralKind.all.map LiteralKind.name
  let name ← chosenName names v
  match pickNamed LiteralKind.all LiteralKind.name name with
  | some kind => return kind
  | none => throw (.unknownName name names)

/-- The double closest to a whole number. -/
def floatOfInt (n : Int) : Float :=
  if n < 0 then -(Decimal.nearest n.natAbs 1) else Decimal.nearest n.natAbs 1

/-- Reads the value of a literal of the given kind. -/
def literalContent : LiteralKind → Json → Conformed Literal
  | .int, .number (.integer n) =>
    if -0x8000000000000000 ≤ n ∧ n < 0x8000000000000000 then .ok (.int (Int64.ofInt n))
    else .error (.outOfRange n .integer)
  | .int, v => mismatch v .integer
  | .float, .number (.integer n) => .ok (.float (floatOfInt n))
  | .float, .number (.real x) => .ok (.float x)
  | .float, v => mismatch v .float
  | .string, .string s => .ok (.string s)
  | .string, v => mismatch v .text
  | .bool, .bool b => .ok (.bool b)
  | .bool, v => mismatch v .flag
  | .null, .null => .ok .null
  | .null, v => mismatch v .nullLiteral

/-- A literal is an object with a type and a value, in any order, or the list of the two; the
value of the null literal may be left out of the object. -/
def conformLiteral : Json → Conformed Literal
  | .object ms =>
    let nothingElse (l : Literal) : List (String × Json) → Conformed Literal
      | [] => .ok l
      | (key, _) :: _ => .error (.duplicate key)
    match ms.filter fun m => m.1 == "type" || m.1 == "value" with
    | [] => .error (.missing "type")
    | (first, v) :: rest =>
      if first == "type" then do
        let kind ← literalKind v
        match rest with
        | [] => if kind = .null then return .null else throw (.missing "value")
        | (second, w) :: rest =>
          if second == "type" then throw (.duplicate "type")
          else nothingElse (← literalContent kind w) rest
      else
        match rest with
        | [] => .error (.missing "type")
        | (second, w) :: rest =>
          if second == "type" then do
            let kind ← literalKind w
            nothingElse (← literalContent kind v) rest
          else .error (.duplicate "value")
  | .array [] => .error (.tooShort 0 Expected.literal.phrase)
  | .array [t] => do
    let _ ← literalKind t
    throw (.tooShort 1 Expected.literal.phrase)
  | .array (t :: v :: rest) => do
    let l ← literalContent (← literalKind t) v
    if rest.isEmpty then return l else throw (.tooLong (rest.length + 2) 2)
  | v => mismatch v .literal

/-- A kind is given by its tag or by its position. -/
def conformTag : Json → Conformed Tag
  | .string s => .ok (.name s)
  | .number (.integer n) =>
    if 0 ≤ n then .ok (.position n.toNat) else mismatch (.number (.integer n)) .kind
  | v => mismatch v .kind

/-- The kind that the members of a node name, once. -/
def tagOf (ms : List (String × Json)) : Conformed Tag :=
  match ms.filter (·.1 == "kind") with
  | [] => .error (.missing "kind")
  | (_, v) :: rest => do
    let tag ← conformTag v
    if rest.isEmpty then return tag else throw (.duplicate "kind")

/-- What stands for a field that an object leaves out. -/
def FieldSpec.leftOut (spec : FieldSpec) : Conformed Datum :=
  match spec.presence with
  | .required => .error (.missing spec.name)
  | .optional => .ok .absent
  | .orElse value => .ok value

def FieldSpec.allowsNull (spec : FieldSpec) : Bool :=
  match spec.presence with
  | .optional => true
  | _ => false

/-- The fields of an object in the order of its layout. -/
def arrange (found : List (String × Datum)) (fields : List FieldSpec) : Conformed (List Datum) :=
  fields.mapM fun spec =>
    match found.lookup spec.name with
    | some d => .ok d
    | none => spec.leftOut

/-- What stands for the fields that a list leaves out from a position on. -/
def leftOutFrom (layout : Layout) : Nat → List FieldSpec → Conformed (List Datum)
  | _, [] => .ok []
  | position, spec :: specs => do
    let d ←
      match spec.presence with
      | .required =>
        throw (.tooShort position s!"{layout.title} with {elementCount layout.fields.length}")
      | .optional => pure .absent
      | .orElse value => pure value
    return d :: (← leftOutFrom layout (position + 1) specs)

mutual

def conform : Shape → Json → Conformed Datum
  | .text, .string s => .ok (.text s)
  | .text, v => mismatch v .text
  | .flag, .bool b => .ok (.flag b)
  | .flag, v => mismatch v .flag
  | .count, v => conformCount v
  | .choice choice, v => conformChoice choice v
  | .literal, v => do return .literal (← conformLiteral v)
  | .list shape, .array vs => do return .list (← conformAll shape vs)
  | .list _, v => mismatch v .list
  | .record record, .object ms => do
    return .record record (← arrange (← conformMembers record.layout.fields [] ms) record.layout.fields)
  | .record record, .array vs => do
    return .record record (← conformInOrder record.layout 0 record.layout.fields vs)
  | .record record, v => mismatch v (.layout record.layout.title)
  | .node family, .object ms => do
    let kind := family.kindOf (← tagOf ms)
    return .node kind (← arrange (← conformMembers kind.layout.fields [] ms) kind.layout.fields)
  | .node _, .array [] => .error (.missing "kind")
  | .node family, .array (t :: vs) => do
    let kind := family.kindOf (← conformTag t)
    return .node kind (← conformInOrder kind.layout 0 kind.layout.fields vs)
  | .node family, v => mismatch v (.node family)

def conformAll (shape : Shape) : List Json → Conformed (List Datum)
  | [] => .ok []
  | v :: vs => do
    let d ← conform shape v
    return d :: (← conformAll shape vs)

/-- The known members of an object, the last one first. -/
def conformMembers (fields : List FieldSpec) (found : List (String × Datum)) :
    List (String × Json) → Conformed (List (String × Datum))
  | [] => .ok found
  | (key, v) :: ms =>
    match fields.find? (·.name == key) with
    | none => conformMembers fields found ms
    | some spec =>
      if found.any (·.1 == key) then .error (.duplicate key)
      else do
        let d ← if spec.allowsNull && v.isNull then pure .absent else conform spec.shape v
        conformMembers fields ((key, d) :: found) ms

/-- The fields of a record that is written as a list. -/
def conformInOrder (layout : Layout) (position : Nat) :
    List FieldSpec → List Json → Conformed (List Datum)
  | specs, [] => leftOutFrom layout position specs
  | [], _ :: vs => .error (.tooLong (position + vs.length + 1) position)
  | spec :: specs, v :: vs => do
    let d ← if spec.allowsNull && v.isNull then pure .absent else conform spec.shape v
    return d :: (← conformInOrder layout (position + 1) specs vs)

end

end ServiceCompiler.Surface
