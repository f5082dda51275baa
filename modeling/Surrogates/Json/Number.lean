/-
Surrogates.Json.Number — the value of a number as a JSON text writes it.
-/
import Surrogates.Json.Lexeme
import Surrogates.Json.Value

namespace Surrogates.Json

/-- Takes digits into a significand while it stays within 64 bits; the
significand and the digits that are left. -/
def absorbDigits : Nat → List Nat → Nat × List Nat
  | significand, [] => (significand, [])
  | significand, d :: ds =>
    if significand * 10 + d < Nat.pow 2 64 then absorbDigits (significand * 10 + d) ds
    else (significand, d :: ds)

/-- The natural number that digits write. -/
def natOfDigits (digits : List Nat) : Nat :=
  digits.foldl (fun n d => n * 10 + d) 0

/-- The value of a number as written. Without fraction and exponent it is an
integer if 64 bits hold it, except `-0`, which is a floating point zero. Else
the significand takes whole digits and then fraction digits while they fit;
whole digits left over raise the exponent. None if it is out of range. -/
def NumberText.value? (text : NumberText) : Option Json.Number :=
  let (whole, left) := absorbDigits 0 text.whole
  match text.fraction, text.exponent, left with
  | none, none, [] =>
    if text.negative then
      if whole = 0 ∨ Nat.pow 2 63 < whole then
        (Binary64.ofRatio? whole 1).map (.real <| .ofMagnitude true ·)
      else some (.integer (-whole))
    else some (.integer whole)
  | fraction, exponent, left =>
    let fraction := fraction.getD []
    let (significand, dropped) := absorbDigits whole fraction
    let shift : Int := left.length - (fraction.length - dropped.length : Nat)
    let written : Int := match exponent with
      | none => 0
      | some (negative, ds) => if negative then -(natOfDigits ds : Int) else natOfDigits ds
    (Binary64.ofDecimal? significand (shift + written)).map (.real <| .ofMagnitude text.negative ·)

end Surrogates.Json
