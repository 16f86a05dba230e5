import ServiceCompiler.Plan.Rpc
import ServiceCompiler.Schema.GraphQl
import ServiceCompiler.Text.Words

/-! # Protobuf definitions

The messages of a service's records, the messages that its remote methods need besides, and the
remote services. A message name is defined once. -/

namespace ServiceCompiler.Schema

open ServiceCompiler.Core (Ty Service RpcService)
open Plan (RpcPlan rpcPlans)

inductive ProtoLabel
  | single | repeated | optional
  deriving DecidableEq, Repr

def ProtoLabel.text : ProtoLabel → String
  | .single => ""
  | .repeated => "repeated "
  | .optional => "optional "

structure ProtoField where
  label : ProtoLabel
  type : String
  name : String
  number : Nat
  deriving DecidableEq, Repr

structure ProtoMessage where
  name : String
  fields : List ProtoField
  deriving DecidableEq, Repr

structure ProtoMethod where
  name : String
  input : String
  output : String
  stream : StreamMode
  deriving DecidableEq, Repr

structure ProtoService where
  name : String
  methods : List ProtoMethod
  deriving DecidableEq, Repr

inductive ProtoEntry
  | message (message : ProtoMessage)
  | service (service : ProtoService)
  deriving DecidableEq, Repr

/-- The type of a single value; records keep their name. -/
def protoType (s : Service) : Ty → String
  | .int => "int64"
  | .float => "double"
  | .string => "string"
  | .bool => "bool"
  | .optional inner => protoType s inner
  | .named name => if isDeclared s name then name else "google.protobuf.Value"
  | .any | .array _ | .future _ | .union _ | .generic _ _ | .provider _ | .function _ _ =>
    "google.protobuf.Value"

def protoField (s : Service) (name : String) (t : Ty) (number : Nat) : ProtoField :=
  match t with
  | .array (.array _) => ⟨.single, protoType s t, name, number⟩
  | .array element => ⟨.repeated, protoType s element, name, number⟩
  | .optional _ => ⟨.optional, protoType s t, name, number⟩
  | _ => ⟨.single, protoType s t, name, number⟩

/-- Fields are numbered from 1 on. -/
def protoFields (s : Service) (fs : List Core.Field) : List ProtoField :=
  fs.mapIdx fun i f => protoField s f.name f.effectiveType (i + 1)

/-- The message of a record type, if the type is that of a record. -/
def recordMessage? (s : Service) : Ty → Option String
  | .named name => if isDeclared s name then some name else none
  | _ => none

/-- The name of a message that belongs to a method. -/
def generatedName (service : RpcService) (method suffix : String) : String :=
  Text.upperCamelCase service.name ++ method ++ suffix

def requestName (s : Service) (service : RpcService) (p : RpcPlan) : String :=
  (recordMessage? s p.input).getD (generatedName service p.name "Request")

def responseName (s : Service) (service : RpcService) (p : RpcPlan) : String :=
  (recordMessage? s p.result).getD (generatedName service p.name "Response")

def protoService (s : Service) (service : RpcService) : ProtoService :=
  ⟨service.name, (rpcPlans service).map fun p =>
    ⟨p.name, requestName s service p, responseName s service p, p.stream⟩⟩

/-- The messages that a method needs besides those of the records. -/
def methodMessages (s : Service) (service : RpcService) (p : RpcPlan) : List ProtoMessage :=
  let request :=
    match recordMessage? s p.input with
    | some _ => []
    | none =>
      let fields := (p.handler.map fun h => protoFields s h.params).getD []
      [⟨generatedName service p.name "Request", fields⟩]
  let response :=
    match recordMessage? s p.result with
    | some _ => []
    | none => [⟨generatedName service p.name "Response", [protoField s "value" p.result 1]⟩]
  request ++ response

/-- All entries in order, before repeated messages are dropped. -/
def protoCandidates (s : Service) : List ProtoEntry :=
  (s.records.map fun r => .message ⟨r.name, protoFields s r.fields⟩) ++
    s.rpc.flatMap fun service =>
      (((rpcPlans service).flatMap (methodMessages s service)).map .message) ++
        [.service (protoService s service)]

/-- Keeps the first message of every name. -/
def firstMessages (defined : List String) : List ProtoEntry → List ProtoEntry
  | [] => []
  | .service d :: es => .service d :: firstMessages defined es
  | .message m :: es =>
    if defined.contains m.name then firstMessages defined es
    else .message m :: firstMessages (m.name :: defined) es

def protoEntries (s : Service) : List ProtoEntry := firstMessages [] (protoCandidates s)

def ProtoField.line (f : ProtoField) : String :=
  s!"  {f.label.text}{f.type} {f.name} = {f.number};"

def ProtoMethod.line (m : ProtoMethod) : String :=
  let (sending, receiving) :=
    match m.stream with
    | .unary => ("", "")
    | .serverStream => ("", "stream ")
    | .clientStream => ("stream ", "")
    | .bidirectional => ("stream ", "stream ")
  s!"  rpc {m.name} ({sending}{m.input}) returns ({receiving}{m.output});"

def ProtoService.lines (d : ProtoService) : List String :=
  ("service " ++ d.name ++ " \x7b") :: d.methods.map ProtoMethod.line ++ ["\x7d"]

def ProtoMessage.lines (m : ProtoMessage) : List String :=
  ("message " ++ m.name ++ " \x7b") :: m.fields.map ProtoField.line ++ ["\x7d"]

def ProtoEntry.lines : ProtoEntry → List String
  | .message m => "" :: m.lines
  | .service d => "" :: d.lines

def proto (s : Service) : String :=
  let head := ["syntax = \"proto3\";", "", "import \"google/protobuf/struct.proto\";"]
  Text.join "\n" (head ++ (protoEntries s).flatMap ProtoEntry.lines) ++ "\n"

def protoPath (s : Service) : String := "proto/" ++ Text.snakeCase s.name ++ ".proto"

end ServiceCompiler.Schema
