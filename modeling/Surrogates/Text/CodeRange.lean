/-
Surrogates.Text.CodeRange — sets of characters given by ranges of code
points, the form in which the character tables of this library are written.
-/

namespace Surrogates.Text

/-! ## Closed ranges -/

/-- Whether a code point lies in one of a list of closed ranges. -/
def inRanges (ranges : List (Nat × Nat)) (code : Nat) : Bool :=
  ranges.any fun (first, last) => first ≤ code && code ≤ last

/-! ## Ranges with a stride -/

/-- The code points `first`, `first + stride`, … up to `last`. -/
structure CodeRange where
  first : Nat
  last : Nat
  stride : Nat
  deriving DecidableEq, Repr

namespace CodeRange

/-- Whether a code point is one of the range's. -/
def contains (range : CodeRange) (code : Nat) : Bool :=
  range.first ≤ code && code ≤ range.last && (code - range.first) % range.stride == 0

end CodeRange

/-! ## Ranges that move as one -/

/-- Code points whose other case lies at one signed distance. -/
structure CaseShift where
  range : CodeRange
  distance : Int
  deriving DecidableEq, Repr

namespace CaseShift

/-- The code point at the other end of the shift, for a code point of its range. -/
def moved? (shift : CaseShift) (code : Nat) : Option Nat :=
  if shift.range.contains code then some (Int.toNat (code + shift.distance)) else none

end CaseShift

end Surrogates.Text
