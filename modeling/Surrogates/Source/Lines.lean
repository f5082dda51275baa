/-
Surrogates.Source.Lines — the lines of a source file.
-/

namespace Surrogates.Source

/-- A generated file: its path below the output directory, and its text. -/
structure File where
  path : String
  contents : String
  deriving DecidableEq, Repr

/-- A line at a depth; an empty line has no blanks. -/
def line (depth : Nat) (text : String) : String :=
  if text.isEmpty then "" else String.ofList (List.replicate (4 * depth) ' ') ++ text

/-- Lines within the braces of a heading. -/
def braced (depth : Nat) (heading : String) (body : List String) : List String :=
  line depth (heading ++ " \x7b") :: body ++ [line depth "\x7d"]

/-- The text of lines, each with its end. -/
def joinLines (lines : List String) : String :=
  lines.foldl (fun text line => text ++ line ++ "\n") ""

end Surrogates.Source
