/-!
# Splitting

The pieces of a run of characters between separators, and its two parts around the
first separator.
-/

namespace Dashboard.Text

/-- The pieces between separators, of which the first continues characters already
passed, those last first. -/
def piecesFrom (separator : Char) : List Char → List Char → List (List Char)
  | current, [] => [current.reverse]
  | current, character :: rest =>
    if character = separator then current.reverse :: piecesFrom separator [] rest
    else piecesFrom separator (character :: current) rest

/-- The pieces between separators; one more than there are separators. -/
def pieces (separator : Char) (characters : List Char) : List (List Char) :=
  piecesFrom separator [] characters

/-- The characters before the first separator and those behind it, none when there is
no separator. -/
def cutAt (separator : Char) (characters : List Char) : List Char × Option (List Char) :=
  match characters.span (· ≠ separator) with
  | (before, []) => (before, none)
  | (before, _ :: after) => (before, some after)

end Dashboard.Text
