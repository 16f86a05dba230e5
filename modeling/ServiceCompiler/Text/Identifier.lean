import ServiceCompiler.Text.Split

/-! # Identifiers

Names that a program can use as they are, and the fragments of such names that arbitrary text is
turned into. -/

namespace ServiceCompiler.Text

def isIdentifierStart (c : Char) : Bool :=
  c.isAlpha || c == '_' || c == '$'

def isIdentifierPart (c : Char) : Bool :=
  c.isAlphanum || c == '_' || c == '$'

def isIdentifierChars : List Char → Bool
  | [] => false
  | c :: rest => isIdentifierStart c && rest.all isIdentifierPart

def isIdentifier (s : String) : Bool := isIdentifierChars s.toList

/-- ASCII letters in lower case and digits as they are; a run of other characters gives one `_`.
The flag tells whether a `_` was written last. -/
def fragmentChars : Bool → List Char → List Char
  | _, [] => []
  | marked, c :: rest =>
    if c.isAlphanum then c.toLower :: fragmentChars false rest
    else if marked then fragmentChars true rest
    else '_' :: fragmentChars true rest

/-- Drops the characters that satisfy `p` from both ends. -/
def trimBoth (p : Char → Bool) (cs : List Char) : List Char :=
  ((cs.dropWhile p).reverse.dropWhile p).reverse

/-- Drops the characters that satisfy `p` from the end. -/
def trimEnd (p : Char → Bool) (cs : List Char) : List Char :=
  (cs.reverse.dropWhile p).reverse

def identifierFragmentChars (cs : List Char) : List Char :=
  match trimBoth (· == '_') (fragmentChars false cs) with
  | [] => []
  | c :: rest => if c.isDigit then '_' :: c :: rest else c :: rest

/-- The lower-case identifier fragment of a text: runs of other characters become one `_`, none at
the ends, and a leading digit gets a `_`. -/
def identifierFragment (s : String) : String :=
  String.ofList (identifierFragmentChars s.toList)

end ServiceCompiler.Text
