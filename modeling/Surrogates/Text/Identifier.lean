/-
Surrogates.Text.Identifier — the characters of identifiers.

Two kinds of identifier occur. Names in configuration are ASCII words: a
letter or underscore, then letters, digits and underscores (`isWord`). Type
expressions admit Unicode identifiers, by the properties `XID_Start` and
`XID_Continue`, with the underscore allowed in front (`isStart`,
`isContinue`). Every word is an identifier: `isStart_of_isWordStart`,
`isContinue_of_isWordChar`.
-/
import Surrogates.Text.CodeRange
import Surrogates.Text.IdentifierContinue
import Surrogates.Text.IdentifierStart

namespace Surrogates.Text.Identifier

/-! ## §1 ASCII words -/

/-- An ASCII letter or the underscore. -/
def isWordStart (c : Char) : Bool :=
  c.isAlpha || c == '_'

/-- An ASCII letter, a digit or the underscore. -/
def isWordChar (c : Char) : Bool :=
  c.isAlphanum || c == '_'

/-- Whether a text is a letter or underscore followed by letters, digits and
underscores, all of ASCII. -/
def isWord : List Char → Bool
  | [] => false
  | c :: rest => isWordStart c && rest.all isWordChar

/-! ## §2 Unicode identifiers -/

/-- Whether a character may begin an identifier. -/
def isStart (c : Char) : Bool :=
  if c.toNat < 128 then isWordStart c else inRanges IdentifierStart.ranges c.toNat

/-- Whether a character may continue an identifier. -/
def isContinue (c : Char) : Bool :=
  if c.toNat < 128 then isWordChar c else inRanges IdentifierContinue.ranges c.toNat

/-! ## §3 Words are identifiers -/

theorem toNat_lt_of_isWordStart {c : Char} (h : isWordStart c = true) : c.toNat < 128 := by
  have h : (decide (c.val ≥ 'A'.val ∧ c.val ≤ 'Z'.val)
      || decide (c.val ≥ 'a'.val) && decide (c.val ≤ 'z'.val) || c == '_') = true := h
  simp only [Bool.or_eq_true, Bool.and_eq_true, decide_eq_true_eq, beq_iff_eq] at h
  rcases h with (h | h) | rfl
  · exact Nat.lt_of_le_of_lt (UInt32.le_iff_toNat_le.mp h.2) (by decide)
  · exact Nat.lt_of_le_of_lt (UInt32.le_iff_toNat_le.mp h.2) (by decide)
  · decide

theorem toNat_lt_of_isWordChar {c : Char} (h : isWordChar c = true) : c.toNat < 128 := by
  simp only [isWordChar, Char.isAlphanum, Char.isDigit, Bool.or_eq_true, Bool.and_eq_true,
    decide_eq_true_eq, beq_iff_eq] at h
  rcases h with (h | h) | rfl
  · exact toNat_lt_of_isWordStart (by simp [isWordStart, h])
  · exact Nat.lt_of_le_of_lt (UInt32.le_iff_toNat_le.mp h.2) (by decide)
  · decide

theorem isStart_of_isWordStart {c : Char} (h : isWordStart c = true) : isStart c = true := by
  simp [isStart, toNat_lt_of_isWordStart h, h]

theorem isContinue_of_isWordChar {c : Char} (h : isWordChar c = true) : isContinue c = true := by
  simp [isContinue, toNat_lt_of_isWordChar h, h]

end Surrogates.Text.Identifier
