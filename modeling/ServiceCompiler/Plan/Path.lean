import ServiceCompiler.Text.Split
import ServiceCompiler.Vocabulary

/-! # Paths of routes

A parameter of a path is a segment `:name` or `{name}` with a name. -/

namespace ServiceCompiler.Plan

/-- The name of a parameter that is written with braces. -/
def bracedName? : List Char → Option (List Char)
  | '{' :: cs =>
    match cs.reverse with
    | '}' :: name => some name.reverse
    | _ => none
  | _ => none

/-- The text of a parameter segment; it may be empty. -/
def segmentName? : List Char → Option (List Char)
  | ':' :: name => some name
  | cs => bracedName? cs

/-- `:name` becomes `{name}`; every other segment stays. -/
def braceSegment : List Char → List Char
  | ':' :: c :: cs => '{' :: c :: cs ++ ['}']
  | segment => segment

def bracePathChars (cs : List Char) : List Char :=
  Text.joinChars ['/'] ((Text.splitChars '/' cs).map braceSegment)

def bracePath (path : String) : String := String.ofList (bracePathChars path.toList)

def pathParamChars (cs : List Char) : List (List Char) :=
  ((Text.splitChars '/' cs).filterMap segmentName?).filter (!·.isEmpty)

def pathParams (path : String) : List String := (pathParamChars path.toList).map String.ofList

/-- The word that routing interfaces use for a method; sockets and event streams are opened by a
`get`. -/
def httpVerb : HttpMethod → String
  | .get | .webSocket | .sse => "get"
  | .post => "post"
  | .put => "put"
  | .delete => "delete"
  | .patch => "patch"

end ServiceCompiler.Plan
