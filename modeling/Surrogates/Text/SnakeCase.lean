/-
Surrogates.Text.SnakeCase — names in lower case with underscores between
their words.

A word begins at an upper case letter behind a lower case letter or a digit,
and at the last upper case letter of a run that a lower case letter follows:
`HTTPServer` is `http_server`. An underscore is put before such a letter
unless one stands there.
-/
import Surrogates.Text.LetterCase

namespace Surrogates.Text

/-- Whether a word begins at an upper case letter between its neighbours. -/
def beginsWord (before after : Option Char) : Bool :=
  match before with
  | none => false
  | some b =>
    if b = '_' then false
    else if LetterCase.isLower b || b.isDigit then true
    else after.any LetterCase.isLower

/-- The rest of a name in snake case, behind a character of the name. -/
def snakeCaseFrom : Option Char → List Char → List Char
  | _, [] => []
  | before, c :: rest =>
    if LetterCase.isUpper c then
      (if beginsWord before rest.head? then ['_'] else []) ++ LetterCase.toLower c
        ++ snakeCaseFrom (some c) rest
    else c :: snakeCaseFrom (some c) rest

/-- A name in snake case. -/
def snakeCase (name : String) : String :=
  String.ofList (snakeCaseFrom none name.toList)

end Surrogates.Text
