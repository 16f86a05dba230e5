import ServiceCompiler.Text.Alphanumeric
import ServiceCompiler.Text.LetterCase
import ServiceCompiler.Text.Split

/-! # Words and the spellings made of them

A text falls into words at every character that is neither letter nor digit, where a lower-case
letter meets an upper-case one, and before the last capital of a run that a lower-case letter
follows. A spelling joins the words again in its own way. -/

namespace ServiceCompiler.Text

/-- The case of the last cased letter of the word being read. -/
inductive WordCase
  | none
  | lower
  | upper
  deriving DecidableEq

def WordCase.after (state : WordCase) (c : Char) : WordCase :=
  if isLower c then .lower else if isUpper c then .upper else state

/-- Cuts a run of letters and digits into words; `word` holds the letters read so far, last one
first. -/
def cutWords : WordCase → List Char → List Char → List (List Char)
  | _, _, [] => []
  | _, word, [c] => [(c :: word).reverse]
  | state, word, c :: next :: rest =>
    if state.after c = .lower && isUpper next then
      (c :: word).reverse :: cutWords .none [] (next :: rest)
    else if state = .upper && isUpper c && isLower next then
      word.reverse :: cutWords .none [c] (next :: rest)
    else cutWords (state.after c) (c :: word) (next :: rest)

/-- The runs of letters and digits of a text; runs may be empty. -/
def alphanumericRuns : List Char → List (List Char)
  | [] => [[]]
  | c :: rest =>
    if isAlphanumeric c then
      match alphanumericRuns rest with
      | [] => [[c]]
      | run :: runs => (c :: run) :: runs
    else [] :: alphanumericRuns rest

def words (s : String) : List (List Char) :=
  (alphanumericRuns s.toList).flatMap (cutWords .none [])

/-- A word in lower case; a sigma that ends it takes its final form. -/
def lowerWord : List Char → List Char
  | [] => []
  | [c] => if c = 'Σ' then ['ς'] else toLower c
  | c :: rest => toLower c ++ lowerWord rest

/-- A word in lower case but for its first letter. -/
def capitalWord : List Char → List Char
  | [] => []
  | c :: rest => toUpper c ++ lowerWord rest

/-- `userId` as `user_id`. -/
def snakeCase (s : String) : String :=
  String.ofList (joinChars ['_'] ((words s).map lowerWord))

/-- `userId` as `user-id`. -/
def kebabCase (s : String) : String :=
  String.ofList (joinChars ['-'] ((words s).map lowerWord))

/-- `user_id` as `UserId`. -/
def upperCamelCase (s : String) : String :=
  String.ofList ((words s).flatMap capitalWord)

/-- `user_id` as `userId`. -/
def lowerCamelCase (s : String) : String :=
  match words s with
  | [] => ""
  | word :: rest => String.ofList (lowerWord word ++ rest.flatMap capitalWord)

end ServiceCompiler.Text
