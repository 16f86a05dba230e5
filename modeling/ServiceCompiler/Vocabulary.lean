/-! # Words of the service language

The closed vocabularies that declarations and expressions choose from, with the names under which
documents know them. -/

namespace ServiceCompiler

def pickNamed {α : Type} (all : List α) (name : α → String) (s : String) : Option α :=
  all.find? (name · == s)

inductive HttpMethod
  | get | post | put | delete | patch | webSocket | sse
  deriving DecidableEq, Repr, Inhabited

namespace HttpMethod

def all : List HttpMethod := [get, post, put, delete, patch, webSocket, sse]

def name : HttpMethod → String
  | get => "GET"
  | post => "POST"
  | put => "PUT"
  | delete => "DELETE"
  | patch => "PATCH"
  | webSocket => "WS"
  | sse => "SSE"

end HttpMethod

/-- Which sides of a remote call send more than one message. -/
inductive StreamMode
  | unary | serverStream | clientStream | bidirectional
  deriving DecidableEq, Repr, Inhabited

namespace StreamMode

def all : List StreamMode := [unary, serverStream, clientStream, bidirectional]

def name : StreamMode → String
  | unary => "unary"
  | serverStream => "server_stream"
  | clientStream => "client_stream"
  | bidirectional => "bidirectional"

end StreamMode

/-- The root operation that a resolver answers. -/
inductive Operation
  | query | mutation | subscription
  deriving DecidableEq, Repr, Inhabited

namespace Operation

def all : List Operation := [query, mutation, subscription]

def name : Operation → String
  | query => "query"
  | mutation => "mutation"
  | subscription => "subscription"

end Operation

/-- A stage in the life of a socket. -/
inductive SocketEvent
  | connect | disconnect | message | error
  deriving DecidableEq, Repr, Inhabited

namespace SocketEvent

def all : List SocketEvent := [connect, disconnect, message, error]

def name : SocketEvent → String
  | connect => "connect"
  | disconnect => "disconnect"
  | message => "message"
  | error => "error"

end SocketEvent

inductive BinaryOp
  | add | sub | mul | div | mod | eq | ne | lt | le | gt | ge | and | or
  deriving DecidableEq, Repr, Inhabited

namespace BinaryOp

def all : List BinaryOp := [add, sub, mul, div, mod, eq, ne, lt, le, gt, ge, and, or]

def name : BinaryOp → String
  | add => "add"
  | sub => "sub"
  | mul => "mul"
  | div => "div"
  | mod => "mod"
  | eq => "eq"
  | ne => "ne"
  | lt => "lt"
  | le => "le"
  | gt => "gt"
  | ge => "ge"
  | and => "and"
  | or => "or"

end BinaryOp

inductive UnaryOp
  | not | neg
  deriving DecidableEq, Repr, Inhabited

namespace UnaryOp

def all : List UnaryOp := [not, neg]

def name : UnaryOp → String
  | not => "not"
  | neg => "neg"

end UnaryOp

/-- A value written out in a program. -/
inductive Literal
  | int (n : Int64)
  | float (x : Float)
  | string (s : String)
  | bool (b : Bool)
  | null
  deriving BEq, Inhabited

end ServiceCompiler
