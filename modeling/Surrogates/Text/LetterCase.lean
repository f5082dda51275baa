/-
Surrogates.Text.LetterCase — upper and lower case of Unicode characters.

A letter's other case may be several characters (`ß` is `SS` in upper
case), so both mappings give a list. ASCII is decided by rule and only the
characters above it by table: `isUpper_ascii` and its neighbours say what
is left of the definitions there.
-/
import Surrogates.Text.CaseTables

namespace Surrogates.Text.LetterCase

/-! ## §1 The properties -/

/-- Whether a character has the property `Uppercase`. -/
def isUpper (c : Char) : Bool :=
  if c.toNat < 128 then c.isUpper else CaseTables.upper.any (·.contains c.toNat)

/-- Whether a character has the property `Lowercase`. -/
def isLower (c : Char) : Bool :=
  if c.toNat < 128 then c.isLower else CaseTables.lower.any (·.contains c.toNat)

/-! ## §2 The mappings -/

/-- Looks a character up in a mapping table: first among the single
characters, then among those that become several, else it stays. -/
def lookup (single : List CaseShift) (several : List (Nat × List Nat)) (c : Char) : List Char :=
  match single.findSome? (·.moved? c.toNat) with
  | some code => [Char.ofNat code]
  | none =>
    match several.lookup c.toNat with
    | some codes => codes.map Char.ofNat
    | none => [c]

/-- The lower case form of a character. -/
def toLower (c : Char) : List Char :=
  if c.toNat < 128 then [c.toLower]
  else lookup CaseTables.toLower CaseTables.toLowerSeveral c

/-- The upper case form of a character. -/
def toUpper (c : Char) : List Char :=
  if c.toNat < 128 then [c.toUpper]
  else lookup CaseTables.toUpper CaseTables.toUpperSeveral c

/-- The upper case form of a text, character by character. -/
def upperText (text : String) : String :=
  String.ofList (text.toList.flatMap toUpper)

/-! ## §3 ASCII -/

theorem isUpper_ascii {c : Char} (h : c.toNat < 128) : isUpper c = c.isUpper := by
  simp [isUpper, h]

theorem toLower_ascii {c : Char} (h : c.toNat < 128) : toLower c = [c.toLower] := by
  simp [toLower, h]

theorem toUpper_ascii {c : Char} (h : c.toNat < 128) : toUpper c = [c.toUpper] := by
  simp [toUpper, h]

end Surrogates.Text.LetterCase
