/-
Surrogates.Number.Binary64 — finite binary floating point numbers of 64
bits, in exact arithmetic.

A magnitude is `mantissa · 2^exponent`. `ofRatio?` rounds a quotient of
natural numbers to the nearest of them, a tie to the even mantissa, and has
no answer above the largest; products and quotients of magnitudes are
rounded the same way. `ofDecimal?` is the value of a decimal significand and
exponent as readers of JSON compute it: the significand is rounded, then
multiplied or divided once by a rounded power of ten, and very small
exponents take several divisions.
-/

namespace Surrogates

/-- A finite binary floating point number: `± mantissa · 2^exponent`. -/
structure Binary64 where
  negative : Bool
  mantissa : Nat
  exponent : Int
  deriving DecidableEq, Repr, Inhabited

namespace Binary64

/-! ## §1 Magnitudes -/

/-- A number without its sign. -/
structure Magnitude where
  mantissa : Nat
  exponent : Int
  deriving DecidableEq, Repr, Inhabited

/-- The least exponent of a mantissa. -/
def minExponent : Int := -1074

/-- The greatest exponent of a mantissa. -/
def maxExponent : Int := 971

/-- The number of bits of a full mantissa. -/
def precision : Nat := 53

namespace Magnitude

/-- Zero. -/
def zero : Magnitude := ⟨0, minExponent⟩

/-- The number as a quotient of natural numbers. -/
def toRatio (x : Magnitude) : Nat × Nat :=
  (x.mantissa * Nat.pow 2 x.exponent.toNat, Nat.pow 2 (-x.exponent).toNat)

end Magnitude

/-! ## §2 Rounding -/

/-- The quotient rounded to the nearest natural number, a tie to the even one. -/
def divNearest (num den : Nat) : Nat :=
  let q := num / den
  let r := num % den
  if den < 2 * r || (2 * r == den && q % 2 == 1) then q + 1 else q

/-- The exponent of the magnitudes around a positive quotient: with it the
quotient's mantissa has the full number of bits, or fewer at the least exponent. -/
def scale (num den : Nat) : Int :=
  let low : Int := max ((num.log2 : Int) - den.log2 - precision) minExponent
  let mantissa := num * Nat.pow 2 (-low).toNat / (den * Nat.pow 2 low.toNat)
  if mantissa < Nat.pow 2 precision then low else low + 1

/-- The magnitude nearest to a quotient of natural numbers, a tie to the even
mantissa; none if it is above the largest magnitude. -/
def ofRatio? (num den : Nat) : Option Magnitude :=
  if num = 0 then some .zero
  else
    let exponent := scale num den
    let mantissa :=
      divNearest (num * Nat.pow 2 (-exponent).toNat) (den * Nat.pow 2 exponent.toNat)
    let rounded : Magnitude :=
      if mantissa = Nat.pow 2 precision then ⟨Nat.pow 2 (precision - 1), exponent + 1⟩
      else ⟨mantissa, exponent⟩
    if maxExponent < rounded.exponent then none else some rounded

namespace Magnitude

/-- The rounded product. -/
def mul? (x y : Magnitude) : Option Magnitude :=
  ofRatio? (x.toRatio.1 * y.toRatio.1) (x.toRatio.2 * y.toRatio.2)

/-- The rounded quotient; the divisor is not zero. -/
def div? (x y : Magnitude) : Option Magnitude :=
  ofRatio? (x.toRatio.1 * y.toRatio.2) (x.toRatio.2 * y.toRatio.1)

end Magnitude

/-! ## §3 Decimals -/

/-- The greatest power of ten that one multiplication or division takes. -/
def maxPower : Nat := 308

/-- Divides by `10^n`, in steps of the greatest power while `n` is above it
and the number is not zero. -/
def divPower? (x : Magnitude) (n : Nat) : Option Magnitude := do
  if n ≤ maxPower then x.div? (← ofRatio? (Nat.pow 10 n) 1)
  else if x.mantissa = 0 then some x
  else divPower? (← x.div? (← ofRatio? (Nat.pow 10 maxPower) 1)) (n - maxPower)
termination_by n
decreasing_by simp only [maxPower] at *; omega

/-- The value of `significand · 10^exponent`; none if it is out of range. -/
def ofDecimal? (significand : Nat) (exponent : Int) : Option Magnitude := do
  let x ← ofRatio? significand 1
  if exponent < 0 then divPower? x (-exponent).toNat
  else if exponent.toNat ≤ maxPower then x.mul? (← ofRatio? (Nat.pow 10 exponent.toNat) 1)
  else if x.mantissa = 0 then some x
  else none

/-- A magnitude with a sign. -/
def ofMagnitude (negative : Bool) (x : Magnitude) : Binary64 :=
  ⟨negative, x.mantissa, x.exponent⟩

end Binary64

end Surrogates
