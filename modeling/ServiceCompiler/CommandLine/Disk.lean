import ServiceCompiler.CommandLine.Host
import ServiceCompiler.Text.Split

/-! # Disks in memory

A disk holds files and directories under their locations, the names of the directories on the way
from the root. Paths are resolved name by name, and what stands in front of a name has to be a
directory. -/

namespace ServiceCompiler.CommandLine

abbrev Location := List String

structure Disk where
  files : List (Location × String)
  /-- The directories; the root is none of them and always exists. -/
  directories : List Location
  workingDirectory : Location

namespace Disk

/-- A disk on which there is only an empty working directory. -/
def empty (workingDirectory : Location) : Disk :=
  ⟨[], (List.range workingDirectory.length).map fun n => workingDirectory.take (n + 1),
    workingDirectory⟩

def contents? (d : Disk) (l : Location) : Option String := (d.files.find? (·.1 == l)).map (·.2)

def isDirectory (d : Disk) (l : Location) : Bool := l.isEmpty || d.directories.contains l

/-- Where a path starts, and its names. -/
def start (d : Disk) (path : String) : Location × List String :=
  (if path.startsWith "/" then [] else d.workingDirectory, Text.splitAt '/' path)

def step (l : Location) (name : String) : Location :=
  if name.isEmpty || name == "." then l
  else if name == ".." then l.dropLast
  else l ++ [name]

/-- The location at the end of a path; the last name may be new. -/
def resolve (d : Disk) (l : Location) : List String → Except FileError Location
  | [] => .ok l
  | name :: names =>
    if d.isDirectory l then d.resolve (step l name) names
    else if (d.contents? l).isSome then .error .notDirectory
    else .error .notFound

def locate (d : Disk) (path : String) : Except FileError Location :=
  let (l, names) := d.start path
  d.resolve l names

def read (d : Disk) (path : String) : Except FileError String := do
  let l ← d.locate path
  match d.contents? l with
  | some text => return text
  | none => if d.isDirectory l then .error .isDirectory else .error .notFound

/-- Creates the directories on a path, as far as they are missing. -/
def createFrom (d : Disk) (l : Location) : List String → Except FileError Disk
  | [] => .ok d
  | name :: names =>
    let next := step l name
    if d.isDirectory next then d.createFrom next names
    else if (d.contents? next).isSome then
      .error (if names.isEmpty then .alreadyExists else .notDirectory)
    else createFrom { d with directories := d.directories ++ [next] } next names

def createDirectories (d : Disk) (path : String) : Except FileError Disk :=
  let (l, names) := d.start path
  d.createFrom l names

def write (d : Disk) (path text : String) : Except FileError Disk := do
  let l ← d.locate path
  if d.isDirectory l then .error .isDirectory
  else return { d with files := d.files.filter (·.1 != l) ++ [(l, text)] }

/-- The files in the working directory and below, with their paths from there. -/
def localFiles (d : Disk) : List (String × String) :=
  d.files.filterMap fun (l, text) =>
    if d.workingDirectory.isPrefixOf l then
      some (Text.join "/" (l.drop d.workingDirectory.length), text)
    else none

end Disk

/-- A run of the compiler on a disk, with the texts it has written. -/
structure Session where
  disk : Disk
  stdout : String
  stderr : String

namespace Session

def start (d : Disk) : Session := ⟨d, "", ""⟩

/-- Keeps the disk as it is if an operation fails. -/
def change (f : Disk → Except FileError Disk) : StateM Session (Except FileError Unit) := fun s =>
  match f s.disk with
  | .ok d => (.ok (), { s with disk := d })
  | .error e => (.error e, s)

def host : Host (StateM Session) where
  read path := fun s => (s.disk.read path, s)
  createDirectories path := change (·.createDirectories path)
  write path text := change (·.write path text)
  out text := fun s => ((), { s with stdout := s.stdout ++ text })
  err text := fun s => ((), { s with stderr := s.stderr ++ text })

end Session

end ServiceCompiler.CommandLine
