import ServiceCompiler.Source.Buffer
import ServiceCompiler.Source.Emit

/-! # Sections of a generated program

A program is written section by section; a section without lines is left out, and every section but
the first has a banner. -/

namespace ServiceCompiler.Source

inductive Section
  | header | types | providers | bootstrap | routes | graphQl | rpc | socket | cron | events
  | queues | entrypoint
  deriving DecidableEq, Repr

namespace Section

def all : List Section :=
  [header, types, providers, bootstrap, routes, graphQl, rpc, socket, cron, events, queues,
    entrypoint]

def title : Section → String
  | header => "Imports"
  | types => "Types"
  | providers => "Providers"
  | bootstrap => "Application"
  | routes => "Routes"
  | graphQl => "GraphQL"
  | rpc => "gRPC"
  | socket => "WebSocket"
  | cron => "Cron Jobs"
  | events => "Event Handlers"
  | queues => "Queue Workers"
  | entrypoint => "Entrypoint"

end Section

/-- The lines of a section as they stand in its program. -/
def sectionTexts (unit : String) (ls : List Line) : List String :=
  (settled ls).map (Line.render unit)

/-- Adds a section to the program so far, with the lines of its banner in front. -/
def addSection (banner : Section → Buffer → Buffer) (b : Buffer) (s : Section) (ls : List Line) :
    Buffer :=
  match sectionTexts b.unit ls with
  | [] => b
  | texts => (if s = .header then b else banner s b).append texts

/-- The program with the given sections. -/
def assemble (unit : String) (banner : Section → Buffer → Buffer)
    (sections : List (Section × List Line)) : String :=
  (sections.foldl (fun b s => addSection banner b s.1 s.2) (Buffer.empty unit)).finish

/-- The lines of every section; fresh numbers go on from section to section. -/
def emitSections (emit : Section → Emit Unit) : Emit (List (Section × List Line)) :=
  Emit.collect Section.all fun s => do
    let (_, ls) ← Emit.capture (emit s)
    return (s, ls)

def emitProgram (unit : String) (banner : Section → Buffer → Buffer) (emit : Section → Emit Unit) :
    String :=
  assemble unit banner (emitSections emit 0).value

end ServiceCompiler.Source
