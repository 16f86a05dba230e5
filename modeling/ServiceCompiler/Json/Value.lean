/-! # Documents

A document is a tree of lists and objects. Objects keep their members in the order in which they
are written, repetitions included. -/

namespace ServiceCompiler

/-- A whole number keeps its digits; every other number is a double. -/
inductive Number
  | integer (n : Int)
  | real (x : Float)
  deriving BEq

inductive Json
  | null
  | bool (b : Bool)
  | number (n : Number)
  | string (s : String)
  | array (items : List Json)
  | object (members : List (String × Json))

namespace Json

def isNull : Json → Bool
  | null => true
  | _ => false

/-- The first member of an object with the given key. -/
def get? (key : String) : Json → Option Json
  | object members => (members.find? (·.1 == key)).map (·.2)
  | _ => none

end Json

end ServiceCompiler
