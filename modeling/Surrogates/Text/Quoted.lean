/-
Surrogates.Text.Quoted — texts in quotes, as messages show them: the quote,
the backslash and the usual controls have escapes of their own, and any
other character that would not be seen stands as its number.
-/
import Surrogates.Text.CodeRange
import Surrogates.Text.Unprintable

namespace Surrogates.Text

/-- Whether a character cannot be seen by itself. -/
def isUnprintable (c : Char) : Bool :=
  if c.toNat < 128 then c.toNat < 0x20 || c.toNat == 0x7F
  else inRanges Unprintable.ranges c.toNat

/-- A character as it stands in quotes. -/
def quoteChar (c : Char) : List Char :=
  if c = '"' then ['\\', '"']
  else if c = '\\' then ['\\', '\\']
  else if c = '\n' then ['\\', 'n']
  else if c = '\r' then ['\\', 'r']
  else if c = '\t' then ['\\', 't']
  else if c.toNat = 0 then ['\\', '0']
  else if isUnprintable c then '\\' :: 'u' :: '{' :: (Nat.toDigits 16 c.toNat ++ ['}'])
  else [c]

/-- A text in quotes. -/
def quoted (text : String) : String :=
  String.ofList ('"' :: (text.toList.flatMap quoteChar ++ ['"']))

end Surrogates.Text
