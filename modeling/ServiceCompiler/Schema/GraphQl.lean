import ServiceCompiler.Core.Dump
import ServiceCompiler.Core.Service

/-! # GraphQL schemas

The object types of a service and the root types of its operations. -/

namespace ServiceCompiler.Schema

open ServiceCompiler.Core (Ty Service)

inductive GqlType
  | named (name : String)
  | list (element : GqlType)
  | required (inner : GqlType)
  deriving DecidableEq, Repr

namespace GqlType

def render : GqlType → String
  | named name => name
  | list element => s!"[{element.render}]"
  | required inner => s!"{inner.render}!"

/-- The name inside all lists. -/
def baseName : GqlType → String
  | named name => name
  | list element => element.baseName
  | required inner => inner.baseName

end GqlType

def isDeclared (s : Service) (name : String) : Bool := s.records.any (·.name == name)

/-- The type for values that may be null; what a schema cannot say is `JSON`. -/
def gqlType (s : Service) : Ty → GqlType
  | .int => .named "Int"
  | .float => .named "Float"
  | .string => .named "String"
  | .bool => .named "Boolean"
  | .array element => .list (gqlType s element)
  | .optional inner => gqlType s inner
  | .future result => gqlType s result
  | .named name => .named (if isDeclared s name then name else "JSON")
  | .any | .union _ | .generic _ _ | .provider _ | .function _ _ => .named "JSON"

def gqlFieldType (s : Service) (t : Ty) (required : Bool) : GqlType :=
  if required && !t.isOptional then .required (gqlType s t) else gqlType s t

structure GqlField where
  name : String
  args : List (String × GqlType)
  type : GqlType
  deriving DecidableEq, Repr

structure GqlObject where
  name : String
  fields : List GqlField
  deriving DecidableEq, Repr

/-- The field of a root type that would be empty. -/
def placeholderField : String := "serviceName"

def rootOperations (s : Service) : List Operation :=
  Operation.all.filter fun op => op = .query || !(s.resolversOf op).isEmpty

def recordObject (s : Service) (r : Core.Record) : GqlObject :=
  ⟨r.name, r.fields.map fun f => ⟨f.name, [], gqlFieldType s f.type f.required⟩⟩

def resolverField (s : Service) (r : Core.Resolver) : GqlField :=
  ⟨r.field, r.params.map fun p => (p.name, gqlFieldType s p.type p.required),
    (r.result.map (gqlType s)).getD (.named "JSON")⟩

/-- The root type of an operation; only that of queries exists without resolvers. -/
def rootObject? (s : Service) (op : Operation) : Option GqlObject :=
  match s.resolversOf op with
  | [] =>
    if op = .query then
      some ⟨Core.rootType op, [⟨placeholderField, [], .required (.named "String")⟩]⟩
    else none
  | rs => some ⟨Core.rootType op, rs.map (resolverField s)⟩

def gqlObjects (s : Service) : List GqlObject :=
  s.records.map (recordObject s) ++ Operation.all.filterMap (rootObject? s)

def GqlField.line (f : GqlField) : String :=
  let args :=
    if f.args.isEmpty then ""
    else "(" ++ Text.join ", " (f.args.map fun a => s!"{a.1}: {a.2.render}") ++ ")"
  s!"  {f.name}{args}: {f.type.render}"

def GqlObject.lines (o : GqlObject) : List String :=
  ["", "type " ++ o.name ++ " \x7b"] ++ o.fields.map GqlField.line ++ ["\x7d"]

def gqlLines (s : Service) : List String :=
  "scalar JSON" :: (gqlObjects s).flatMap GqlObject.lines

def graphQl (s : Service) : String := Text.join "\n" (gqlLines s) ++ "\n"

end ServiceCompiler.Schema
