import ServiceCompiler.Diagnostic.Basic

/-! # Rendered diagnostics

A rendering is a sequence of texts and changes of style. Without colors the changes of style are
left out. -/

namespace ServiceCompiler

inductive Style
  | level (level : Level)
  | reset
  | bold
  | arrow
  | help
  deriving DecidableEq, Repr

/-- What is between `ESC [` and the final `m`. -/
def Style.parameters : Style → List Char
  | .level .error => ['1', ';', '3', '1']
  | .level .warning => ['1', ';', '3', '3']
  | .level .note => ['1', ';', '3', '6']
  | .reset => ['0']
  | .bold => ['1']
  | .arrow => ['1', ';', '3', '4']
  | .help => ['1', ';', '3', '2']

def Style.sequence (s : Style) : List Char := '\x1b' :: '[' :: s.parameters ++ ['m']

inductive Piece
  | text (s : String)
  | style (s : Style)
  deriving DecidableEq, Repr

def Piece.chars (colors : Bool) : Piece → List Char
  | .text s => s.toList
  | .style s => if colors then s.sequence else []

namespace Diagnostic

def remark (style : Style) (label text : String) : List Piece :=
  [.text "   = ", .style style, .text label, .style .reset, .text ": ", .text text, .text "\n"]

def pieces (d : Diagnostic) : List Piece :=
  let code :=
    match d.code with
    | some c => s!"[{c.text}]"
    | none => ""
  let head :=
    [.style (.level d.level), .text d.level.name, .text code, .style .reset, .style .bold, .text ": ",
      .text d.message, .style .reset, .text "\n"]
  let place :=
    if d.locations.isEmpty then []
    else
      [.text "  ", .style .arrow, .text "-->", .style .reset, .text " ",
        .text (Text.join " > " d.locations), .text "\n"]
  head ++ place ++ d.notes.flatMap (remark .bold "note") ++ d.help.flatMap (remark .help "help")

def renderChars (colors : Bool) (d : Diagnostic) : List Char :=
  d.pieces.flatMap (Piece.chars colors)

def render (colors : Bool) (d : Diagnostic) : String := String.ofList (d.renderChars colors)

end Diagnostic

/-- Diagnostics with an empty line between neighbours. -/
def renderAll (colors : Bool) (ds : List Diagnostic) : String :=
  Text.join "\n" (ds.map (·.render colors))

end ServiceCompiler
