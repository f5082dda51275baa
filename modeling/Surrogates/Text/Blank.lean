/-
Surrogates.Text.Blank — the characters that separate the tokens of a type
expression.
-/

namespace Surrogates.Text

/-- The Unicode property `White_Space` and the two marks of writing
direction, U+200E and U+200F. -/
def isBlank (c : Char) : Bool :=
  let code := c.toNat
  (9 ≤ code && code ≤ 13) || code == 0x20 || code == 0x85 || code == 0xA0 || code == 0x1680
    || (0x2000 ≤ code && code ≤ 0x200A) || code == 0x200E || code == 0x200F
    || code == 0x2028 || code == 0x2029 || code == 0x202F || code == 0x205F || code == 0x3000

end Surrogates.Text
