/-! # Cutting texts at a character

`splitAt sep` cuts a text at every `sep`; the pieces may be empty and there is always at least one.
Joining the pieces with `sep` gives the text back. -/

namespace ServiceCompiler.Text

/-- The pieces of a list of characters between the occurrences of `sep`. -/
def splitChars (sep : Char) : List Char → List (List Char)
  | [] => [[]]
  | c :: rest =>
    if c = sep then [] :: splitChars sep rest
    else
      match splitChars sep rest with
      | [] => [[c]]
      | piece :: pieces => (c :: piece) :: pieces

/-- The pieces of a text between the occurrences of `sep`. -/
def splitAt (sep : Char) (s : String) : List String :=
  (splitChars sep s.toList).map String.ofList

/-- The pieces with `sep` between neighbours. -/
def joinChars (sep : List Char) : List (List Char) → List Char
  | [] => []
  | [piece] => piece
  | piece :: pieces => piece ++ sep ++ joinChars sep pieces

/-- The texts with `sep` between neighbours. -/
def join (sep : String) (pieces : List String) : String :=
  String.ofList (joinChars sep.toList (pieces.map String.toList))

theorem splitChars_ne_nil (sep : Char) (cs : List Char) : splitChars sep cs ≠ [] := by
  cases cs with
  | nil => simp [splitChars]
  | cons c rest =>
    rw [splitChars]
    split
    · simp
    · split <;> simp

theorem joinChars_splitChars (sep : Char) (cs : List Char) :
    joinChars [sep] (splitChars sep cs) = cs := by
  induction cs with
  | nil => rfl
  | cons c rest ih =>
    rw [splitChars]
    split
    · rename_i h
      subst h
      cases hp : splitChars c rest with
      | nil => exact absurd hp (splitChars_ne_nil c rest)
      | cons piece pieces => simpa [joinChars, hp] using ih
    · cases hp : splitChars sep rest with
      | nil => exact absurd hp (splitChars_ne_nil sep rest)
      | cons piece pieces =>
        rw [hp] at ih
        cases pieces with
        | nil => simpa [joinChars] using ih
        | cons next more => simpa [joinChars] using ih

/-- The lines of a text: a line feed ends a line, and takes a carriage return right before it
along. -/
def lines (s : String) : List String :=
  let pieces := splitChars '\n' s.toList
  let ended := pieces.dropLast.map fun piece =>
    if piece.getLast? = some '\r' then piece.dropLast else piece
  let last := pieces.getLast?.getD []
  (if last.isEmpty then ended else ended ++ [last]).map String.ofList

/-- Puts `replacement` for every occurrence of `pattern`, taken from the left without overlaps. The
first argument bounds the number of steps. -/
def replaceChars (pattern replacement : List Char) : Nat → List Char → List Char
  | 0, cs => cs
  | _ + 1, [] => []
  | steps + 1, c :: rest =>
    if pattern.isPrefixOf (c :: rest) then
      replacement ++ replaceChars pattern replacement steps ((c :: rest).drop pattern.length)
    else c :: replaceChars pattern replacement steps rest

/-- Puts `replacement` for every occurrence of the non-empty `pattern`. -/
def replaceAll (pattern replacement : String) (s : String) : String :=
  String.ofList (replaceChars pattern.toList replacement.toList s.length s.toList)

end ServiceCompiler.Text
