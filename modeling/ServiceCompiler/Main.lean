import ServiceCompiler.CommandLine.Run

/-! # The compiler as a program -/

namespace ServiceCompiler.CommandLine

def fileError : IO.Error → FileError
  | .noFileOrDirectory .. => .notFound
  | .alreadyExists .. => .alreadyExists
  | .inappropriateType _ 20 _ => .notDirectory
  | .inappropriateType _ 21 _ => .isDirectory
  | e => .other (toString e)

/-- Runs an operation and hands its error over. -/
def attempted {α : Type} (operation : IO α) : IO (Except FileError α) := do
  try
    return .ok (← operation)
  catch e => return .error (fileError e)

def systemHost : Host IO where
  read path := attempted (IO.FS.readFile path)
  createDirectories path := attempted (IO.FS.createDirAll path)
  write path text := attempted (IO.FS.writeFile path text)
  out text := do (← IO.getStdout).putStr text
  err text := do (← IO.getStderr).putStr text

end ServiceCompiler.CommandLine

open ServiceCompiler.CommandLine in
def main (args : List String) : IO UInt32 := execute systemHost args
