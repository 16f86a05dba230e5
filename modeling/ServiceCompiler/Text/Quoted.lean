/-! # Quoted literals

A text between two delimiters. A backslash stands before a backslash and before the delimiter, and
a line feed, a carriage return and a tab are written by their letters, so that the first delimiter
without a backslash ends the literal. -/

namespace ServiceCompiler.Text

/-- How one character stands inside a literal. -/
def quoteChar (delimiter c : Char) : List Char :=
  if c = '\\' then ['\\', '\\']
  else if c = '\n' then ['\\', 'n']
  else if c = '\r' then ['\\', 'r']
  else if c = '\t' then ['\\', 't']
  else if c = delimiter then ['\\', c]
  else [c]

def quoteChars (delimiter : Char) (cs : List Char) : List Char :=
  delimiter :: cs.flatMap (quoteChar delimiter) ++ [delimiter]

def quote (delimiter : Char) (s : String) : String :=
  String.ofList (quoteChars delimiter s.toList)

def doubleQuoted (s : String) : String := quote '"' s

def singleQuoted (s : String) : String := quote '\'' s

end ServiceCompiler.Text
