/-
Surrogates.Files.Path — paths of files.

A path is a text. Slashes part it into pieces, of which the empty one and
`.` lead nowhere. `parent?` drops the last piece that leads somewhere, and
`join` adds pieces at the end.
-/

namespace Surrogates.Files

/-! ## §1 Pieces -/

/-- The texts before, between and behind the slashes of a text. -/
def splitChars : List Char → List (List Char)
  | [] => [[]]
  | c :: rest =>
    if c = '/' then [] :: splitChars rest
    else
      match splitChars rest with
      | [] => [[c]]
      | first :: more => (c :: first) :: more

/-- The pieces of a path; there is at least one. -/
def pieces (path : String) : List String :=
  (splitChars path.toList).map String.ofList

/-- The path of pieces. -/
def ofPieces (pieces : List String) : String :=
  "/".intercalate pieces

/-- Whether a path starts at the root. -/
def isAbsolute (path : String) : Bool :=
  path.toList.head? == some '/'

/-- Whether a piece leads nowhere. -/
def isIdle (piece : String) : Bool :=
  piece == "" || piece == "."

/-- Whether a path is the directory it starts from. -/
def isHere (path : String) : Bool :=
  match pieces path with
  | "." :: rest => rest.all isIdle
  | _ => false

/-! ## §2 Parents and children -/

/-- Pieces without those at the end that lead nowhere. -/
def dropIdle (pieces : List String) : List String :=
  (pieces.reverse.dropWhile isIdle).reverse

/-- The path of the directory that a path lies in. A relative path of one piece
lies in the empty path; the root and the empty path lie in none. -/
def parent? (path : String) : Option String :=
  match pieces path with
  | [] => none
  | first :: rest =>
    match dropIdle rest with
    | [] => if first = "" then none else some ""
    | leading =>
      match dropIdle leading.dropLast with
      | [] => some (if first = "" then "/" else first)
      | above => some (ofPieces (first :: above))

/-- At most `fuel` paths: a path, its parent, and so on upwards. -/
def ancestorsWithin : Nat → String → List String
  | 0, _ => []
  | fuel + 1, path =>
    path :: (match parent? path with
      | some parent => ancestorsWithin fuel parent
      | none => [])

/-- A path, its parent, and so on upwards; each is shorter than the one before. -/
def ancestors (path : String) : List String :=
  ancestorsWithin (path.length + 1) path

/-- The path of a name in a directory. -/
def join (directory name : String) : String :=
  if directory = "" || directory.toList.getLast? == some '/' then directory ++ name
  else directory ++ "/" ++ name

end Surrogates.Files
