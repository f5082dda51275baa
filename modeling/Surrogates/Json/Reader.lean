/-
Surrogates.Json.Reader — JSON values from JSON texts.

`parse` reads a text that is one value and nothing else. A key written twice
keeps the place of its first member and the value of its last. Arrays and
objects may be nested up to a depth; `parse` has the usual one, and
`parseWithin` takes it as an argument.
-/
import Surrogates.Json.Number

namespace Surrogates.Json

/-! ## §1 Containers -/

/-- A reader of one value in front of a list of lexemes. -/
abbrev ValueReader := List Lexeme → Option (Json × List Lexeme)

/-- The items of an array from the first item on; `fuel` bounds their number. -/
def readItems (value : ValueReader) : Nat → List Lexeme → Option (List Json × List Lexeme)
  | 0, _ => none
  | fuel + 1, lexemes => do
    let (item, rest) ← value lexemes
    match rest with
    | .closeBracket :: rest => some ([item], rest)
    | .comma :: rest =>
      let (items, rest) ← readItems value fuel rest
      some (item :: items, rest)
    | _ => none

/-- The members of an object from the first key on, put into those before. -/
def readMembers (value : ValueReader) :
    Nat → List (String × Json) → List Lexeme → Option (List (String × Json) × List Lexeme)
  | 0, _, _ => none
  | fuel + 1, members, .string (some key) :: .colon :: rest => do
    let (item, rest) ← value rest
    let members := Assoc.put key item members
    match rest with
    | .closeBrace :: rest => some (members, rest)
    | .comma :: rest => readMembers value fuel members rest
    | _ => none
  | _, _, _ => none

/-! ## §2 Values -/

/-- Reads a value whose arrays and objects are nested less than `depth` deep. -/
def readValue : Nat → ValueReader
  | _, .null :: rest => some (null, rest)
  | _, .bool value :: rest => some (bool value, rest)
  | _, .number text :: rest => text.value?.map (number ·, rest)
  | _, .string (some value) :: rest => some (string value, rest)
  | _ + 2, .openBracket :: .closeBracket :: rest => some (array [], rest)
  | _ + 2, .openBrace :: .closeBrace :: rest => some (object [], rest)
  | depth + 2, .openBracket :: rest =>
    (readItems (readValue (depth + 1)) rest.length rest).map fun (items, rest) => (array items, rest)
  | depth + 2, .openBrace :: rest =>
    (readMembers (readValue (depth + 1)) rest.length [] rest).map
      fun (members, rest) => (object members, rest)
  | _, _ => none

/-- Reads a text that is one value nested less than `depth` deep. -/
def parseWithin (depth : Nat) (text : String) : Option Json :=
  match readValue depth (Lexeme.scan text) with
  | some (value, []) => some value
  | _ => none

/-- Reads a text that is one value. -/
def parse (text : String) : Option Json :=
  parseWithin 128 text

end Surrogates.Json
