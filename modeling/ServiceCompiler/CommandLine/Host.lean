/-! # Hosts

What the compiler asks of the system it runs on: reading and writing files, and two channels for
text. -/

namespace ServiceCompiler.CommandLine

inductive FileError
  | notFound
  | alreadyExists
  | notDirectory
  | isDirectory
  | other (message : String)
  deriving DecidableEq, Repr

def FileError.message : FileError → String
  | notFound => "No such file or directory (os error 2)"
  | alreadyExists => "File exists (os error 17)"
  | notDirectory => "Not a directory (os error 20)"
  | isDirectory => "Is a directory (os error 21)"
  | other message => message

structure Host (m : Type → Type) where
  read : String → m (Except FileError String)
  createDirectories : String → m (Except FileError Unit)
  write : String → String → m (Except FileError Unit)
  out : String → m Unit
  err : String → m Unit

end ServiceCompiler.CommandLine
