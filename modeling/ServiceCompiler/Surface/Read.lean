import ServiceCompiler.Json.Printer
import ServiceCompiler.Json.Reader
import ServiceCompiler.Json.Skip
import ServiceCompiler.Surface.Decode
import ServiceCompiler.Surface.Encode

/-! # Programs as texts

A program is an object whose member `items` lists the declarations, or the list of that one field.
Each declaration is judged as soon as its text has been read, so a declaration of the wrong shape
is reported before a fault in the text behind it. -/

namespace ServiceCompiler.Surface

inductive ReadError
  | fault (fault : Json.Fault)
  | shape (error : ShapeError)

def ReadError.message : ReadError → String
  | fault f => f.message
  | shape e => e.message

abbrev ProgramReader (α : Type) : Type := Json.Reader ReadError α

def fault {α : Type} (f : Json.Fault) : Except ReadError α := .error (.fault f)

def shapeError {α : Type} (e : ShapeError) : Except ReadError α := .error (.shape e)

/-- Reads a part of a text in which only the text can be at fault. -/
def plain {α : Type} (reader : Json.Reader Json.Fault α) : ProgramReader α := fun cs =>
  (reader cs).mapError .fault

/-- Reports what stands where something else is expected. Of a list or an object only the opening
character is looked at. -/
def unexpected {α : Type} (expected : Expected) (cs : List Char) : Except ReadError α :=
  match cs with
  | '[' :: _ => shapeError (.mismatch .list expected)
  | '{' :: _ => shapeError (.mismatch .object expected)
  | cs => do
    let (v, _) ← plain Json.scalar cs
    shapeError (.mismatch (.of v) expected)

def itemTag : ProgramReader String := fun cs =>
  match Json.skipBlanks cs with
  | '"' :: rest => plain Json.quoted rest
  | cs => unexpected .kind cs

/-- The number of levels that the parts of a declaration may nest: the program, the list of
declarations and the declaration itself are three. -/
def itemDepth : Nat := Json.depthLimit - 3

inductive ItemMember
  | tag (s : String)
  | content (key : String) (value : Json)

def itemMember (seen : List String) (key : String) : ProgramReader ItemMember := fun cs =>
  if key == "kind" then
    if seen.contains key then shapeError (.duplicate key)
    else do
      let (_, rest) ← plain Json.colon cs
      let (s, rest) ← itemTag rest
      return (.tag s, rest)
  else do
    let (_, rest) ← plain Json.colon cs
    let (v, rest) ← plain (Json.value itemDepth) rest
    return (.content key v, rest)

def ItemMember.tag? : ItemMember → Option String
  | tag s => some s
  | content _ _ => none

def ItemMember.content? : ItemMember → Option (String × Json)
  | tag _ => none
  | content key value => some (key, value)

/-- The declaration with the given tag and the given members. -/
def Item.ofMembers (tag : String) (ms : List (String × Json)) : Except ShapeError Item := do
  let kind := Family.item.kindOf (.name tag)
  let fields ← arrange (← conformMembers kind.layout.fields [] ms) kind.layout.fields
  return Item.ofDatum (.node kind fields)

/-- The declaration with the given tag and the given fields in order. -/
def Item.ofFields (tag : String) (vs : List Json) : Except ShapeError Item := do
  let kind := Family.item.kindOf (.name tag)
  return Item.ofDatum (.node kind (← conformInOrder kind.layout 0 kind.layout.fields vs))

def item : ProgramReader Item := fun cs =>
  match Json.skipBlanks cs with
  | '{' :: rest => do
    let (parts, rest) ← Json.members .fault itemMember rest
    match parts.findSome? ItemMember.tag? with
    | none => shapeError (.missing "kind")
    | some tag =>
      let item ← (Item.ofMembers tag (parts.filterMap ItemMember.content?)).mapError .shape
      return (item, rest)
  | '[' :: rest =>
    match Json.skipBlanks rest with
    | [] => fault .endInList
    | ']' :: _ => shapeError (.missing "kind")
    | rest => do
      let (tag, rest) ← itemTag rest
      let value := plain (Json.value itemDepth)
      let (vs, rest) ← Json.elementsFrom .fault value (rest.length + 1) false rest
      let item ← (Item.ofFields tag vs).mapError .shape
      return (item, rest)
  | cs => unexpected (.node .item) cs

def items : ProgramReader (List Item) := fun cs =>
  match Json.skipBlanks cs with
  | '[' :: rest => Json.elements .fault item rest
  | cs => unexpected .list cs

/-- Reads a member of the program; only `items` matters. -/
def programMember (seen : List String) (key : String) : ProgramReader (List Item) := fun cs =>
  if key == "items" then
    if seen.contains key then shapeError (.duplicate key)
    else do
      let (_, rest) ← plain Json.colon cs
      items rest
  else do
    let (_, rest) ← plain Json.colon cs
    let (_, rest) ← plain Json.skip rest
    return ([], rest)

/-- Reads the closing bracket of a program that is written as a list. -/
def listEnd : ProgramReader Unit := fun cs =>
  match Json.skipBlanks cs with
  | [] => fault .endInList
  | ']' :: rest => .ok ((), rest)
  | ',' :: rest =>
    match Json.skipBlanks rest with
    | ']' :: _ => fault .trailingComma
    | _ => fault .trailingText
  | _ => fault .trailingText

def program : ProgramReader Program := fun cs =>
  match Json.skipBlanks cs with
  | '{' :: rest => do
    let (parts, rest) ← Json.members .fault programMember rest
    return (⟨parts.flatten⟩, rest)
  | '[' :: rest =>
    match Json.skipBlanks rest with
    | [] => fault .endInList
    | ']' :: rest => .ok (⟨[]⟩, rest)
    | rest => do
      let (is, rest) ← items rest
      let (_, rest) ← listEnd rest
      return (⟨is⟩, rest)
  | cs => unexpected (.layout "struct Program") cs

def Program.parse (text : String) : Except ReadError Program := do
  let (p, rest) ← program text.toList
  (Json.ending rest).mapError .fault
  return p

def Program.print (p : Program) : String := p.toJson.pretty

end ServiceCompiler.Surface
