/-
Surrogates.Json.Writer — JSON texts from JSON values.

`render` writes no blanks. `pretty` puts every item and member on a line of
its own, two blanks deeper than its container; an empty container stays on
one line in both. In strings only the quote, the backslash and the control
characters below the blank are escaped.
-/
import Surrogates.Json.Value
import Surrogates.Number.Shortest

namespace Surrogates.Json

/-! ## §1 Scalars -/

/-- A lower case hexadecimal digit. -/
def hexChar (n : Nat) : Char :=
  if n < 10 then Char.ofNat ('0'.toNat + n) else Char.ofNat ('a'.toNat + (n - 10))

/-- A character as it stands in a string. -/
def escapeChar (c : Char) : List Char :=
  if c = '"' then ['\\', '"']
  else if c = '\\' then ['\\', '\\']
  else if c.toNat = 0x08 then ['\\', 'b']
  else if c.toNat = 0x0C then ['\\', 'f']
  else if c = '\n' then ['\\', 'n']
  else if c = '\r' then ['\\', 'r']
  else if c = '\t' then ['\\', 't']
  else if c.toNat < 0x20 then ['\\', 'u', '0', '0', hexChar (c.toNat / 16), hexChar (c.toNat % 16)]
  else [c]

/-- A text as a string. -/
def renderString (text : String) : String :=
  String.ofList ('"' :: (text.toList.flatMap escapeChar ++ ['"']))

/-- A number, with the fewest digits that read back. -/
def Number.render : Number → String
  | .integer n => toString n
  | .real x => x.render

/-! ## §2 Without blanks -/

mutual

/-- A value without blanks. -/
def render : Json → String
  | null => "null"
  | bool true => "true"
  | bool false => "false"
  | number n => n.render
  | string s => renderString s
  | array items => "[" ++ renderItems items ++ "]"
  | object members => "\x7b" ++ renderMembers members ++ "\x7d"

/-- The items of an array, separated by commas. -/
def renderItems : List Json → String
  | [] => ""
  | [item] => render item
  | item :: rest => render item ++ "," ++ renderItems rest

/-- The members of an object, separated by commas. -/
def renderMembers : List (String × Json) → String
  | [] => ""
  | [(key, item)] => renderString key ++ ":" ++ render item
  | (key, item) :: rest => renderString key ++ ":" ++ render item ++ "," ++ renderMembers rest

end

/-! ## §3 On lines -/

/-- A line break and the blanks of a depth. -/
def newline (depth : Nat) : String :=
  "\n" ++ String.ofList (List.replicate (2 * depth) ' ')

mutual

/-- A value on lines, its container at a depth. -/
def prettyAt (depth : Nat) : Json → String
  | array (item :: rest) =>
    "[" ++ newline (depth + 1) ++ prettyItems (depth + 1) (item :: rest) ++ newline depth ++ "]"
  | object (member :: rest) =>
    "\x7b" ++ newline (depth + 1) ++ prettyMembers (depth + 1) (member :: rest) ++ newline depth ++ "\x7d"
  | array [] => "[]"
  | object [] => "\x7b\x7d"
  | null => "null"
  | bool true => "true"
  | bool false => "false"
  | number n => n.render
  | string s => renderString s

/-- The items of an array on lines of a depth. -/
def prettyItems (depth : Nat) : List Json → String
  | [] => ""
  | [item] => prettyAt depth item
  | item :: rest => prettyAt depth item ++ "," ++ newline depth ++ prettyItems depth rest

/-- The members of an object on lines of a depth. -/
def prettyMembers (depth : Nat) : List (String × Json) → String
  | [] => ""
  | [(key, item)] => renderString key ++ ": " ++ prettyAt depth item
  | (key, item) :: rest =>
    renderString key ++ ": " ++ prettyAt depth item ++ "," ++ newline depth
      ++ prettyMembers depth rest

end

/-- A value on lines. -/
def pretty (value : Json) : String :=
  prettyAt 0 value

end Surrogates.Json
