/-
Surrogates.Number.Shortest — the shortest decimal text of a binary floating
point number.

The reals that round to `m · 2^e` form an interval around it, whose ends
belong to it exactly if `m` is even. `digits` looks for the coarsest grid of
multiples of a power of ten with a point in that interval, and takes the
point nearest to the number. `render` writes the point: positional with a
decimal point while its exponent is at least -5 and below 16, else with an
exponent that always has a sign.
-/
import Surrogates.Number.Binary64

namespace Surrogates.Binary64

/-! ## §1 The interval -/

/-- The interval of reals that round to a number, in units of `2^(exponent - 2)`. -/
structure Interval where
  low : Nat
  value : Nat
  high : Nat
  closed : Bool
  exponent : Int

/-- The interval of a positive number. Below a power of two the numbers lie
twice as close, so the lower end is nearer there. -/
def interval (x : Binary64) : Interval :=
  let narrow := x.mantissa = Nat.pow 2 (precision - 1) ∧ minExponent < x.exponent
  { low := 4 * x.mantissa - (if narrow then 1 else 2)
    value := 4 * x.mantissa
    high := 4 * x.mantissa + 2
    closed := x.mantissa % 2 == 0
    exponent := x.exponent - 2 }

namespace Interval

/-- Numerator and denominator of a count of the interval's units, in units of `10^power`. -/
def toGrid (i : Interval) (count : Nat) (power : Int) : Nat × Nat :=
  (count * Nat.pow 2 i.exponent.toNat * Nat.pow 10 (-power).toNat,
   Nat.pow 2 (-i.exponent).toNat * Nat.pow 10 power.toNat)

/-- Whether the multiple `point` of `10^power` lies in the interval. -/
def contains (i : Interval) (power : Int) (point : Nat) : Bool :=
  let (low, den) := i.toGrid i.low power
  let (high, _) := i.toGrid i.high power
  let scaled := point * den
  if i.closed then low ≤ scaled && scaled ≤ high else low < scaled && scaled < high

/-- The multiple of `10^power` in the interval that is nearest to its number. -/
def nearest? (i : Interval) (power : Int) : Option Nat :=
  let (num, den) := i.toGrid i.value power
  let below := num / den
  match i.contains power below, i.contains power (below + 1) with
  | true, true => some (divNearest num den)
  | true, false => some below
  | false, true => some (below + 1)
  | false, false => none

end Interval

/-! ## §2 The digits -/

/-- The first grid with a point in the interval among those of `power`,
`power - 1`, …; the point and its power of ten. -/
def searchGrid (i : Interval) : Nat → Int → Nat × Int
  | 0, power => (i.value, power)
  | fuel + 1, power =>
    match i.nearest? power with
    | some point => (point, power)
    | none => searchGrid i fuel (power - 1)

/-- A power of ten above the number. -/
def powerAbove (x : Binary64) : Int :=
  (((x.mantissa.log2 : Int) + x.exponent + 1) * 30103) / 100000 + 2

/-- The fewest digits that read back as the number, and the power of ten that
they count. -/
def digits (x : Binary64) : Nat × Int :=
  if x.mantissa = 0 then (0, 0) else searchGrid x.interval 32 x.powerAbove

/-! ## §3 The text -/

/-- Writes digits that count a power of ten: positional while the exponent of
the first digit is at least -5 and below 16, else in the form `d.ddde±x`. -/
def renderDigits (point : Nat) (power : Int) : List Char :=
  let ds := Nat.toDigits 10 point
  let lead : Int := ds.length + power - 1
  if -5 ≤ lead ∧ lead < 16 then
    if 0 ≤ power then ds ++ List.replicate power.toNat '0' ++ ['.', '0']
    else if 0 ≤ lead then ds.take (lead.toNat + 1) ++ '.' :: ds.drop (lead.toNat + 1)
    else '0' :: '.' :: List.replicate (-lead - 1).toNat '0' ++ ds
  else
    let mantissa := match ds with
      | [d] => [d]
      | d :: rest => d :: '.' :: rest
      | [] => []
    mantissa ++ 'e' :: (if lead < 0 then '-' else '+') :: Nat.toDigits 10 lead.natAbs

/-- The shortest decimal text that reads back as the number; zero keeps its sign. -/
def render (x : Binary64) : String :=
  let (point, power) := x.digits
  let body := renderDigits point power
  String.ofList (if x.negative then '-' :: body else body)

end Surrogates.Binary64
