/-! # Lines of source

Generated programs are written line by line, each at a depth of indentation. A gap is an empty line
between two lines that are not empty. -/

namespace ServiceCompiler.Source

/-- The text of a line may itself run over several lines; an empty text is an empty line. -/
inductive Line
  | code (depth : Nat) (text : String)
  | gap
  deriving DecidableEq, Repr

namespace Line

def deeper : Line → Line
  | code depth text => code (depth + 1) text
  | gap => gap

def isEmpty : Line → Bool
  | code _ text => text.isEmpty
  | gap => true

/-- The line with its indentation, `unit` for every level. An empty line has none. -/
def render (unit : String) : Line → String
  | code depth text =>
    if text.isEmpty then "" else String.join (List.replicate depth unit) ++ text
  | gap => ""

end Line

def nested (ls : List Line) : List Line := ls.map Line.deeper

/-- The gaps that stand behind a line that is not empty. `open` tells whether the line before is
one. -/
def closeGaps : Bool → List Line → List Line
  | _, [] => []
  | open?, .gap :: ls => if open? then .gap :: closeGaps false ls else closeGaps false ls
  | _, .code depth text :: ls => .code depth text :: closeGaps (!text.isEmpty) ls

/-- Lines with exactly the gaps that show. -/
def settled (ls : List Line) : List Line := closeGaps false ls

end ServiceCompiler.Source
