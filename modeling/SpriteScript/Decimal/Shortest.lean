import SpriteScript.Decimal.Binary

/-!
# The shortest decimal that reads back

Among the decimals that round to a given double there is one with the fewest digits, and among
those with the fewest one that is nearest to the double. The search goes through the decimal
grids from one digit to seventeen and looks, on each, at the two neighbours of the value. If a
grid has any point in the interval of reals that round to the double, one of the two neighbours
lies in it.
-/

namespace SpriteScript.Decimal

/-- A decimal: `coefficient * 10 ^ exponent`. -/
structure Digits where
  coefficient : Nat
  exponent : Int
deriving DecidableEq

/-- The reals that round to a positive double, over one denominator. `closed` says that the ends
belong to them, which they do when the significand is even. -/
structure Interval where
  low : Nat
  value : Nat
  high : Nat
  denominator : Nat
  closed : Bool

/-- The interval around `significand * 2 ^ exponent`. The next double below a power of two is
only half as far away as the next one above. -/
def Interval.around (significand : Nat) (exponent : Int) : Interval :=
  let below := if significand = twoTo 52 && decide (-1074 < exponent) then 1 else 2
  let (scale, denominator) := scaleDown (2 - exponent) 1 1
  { low := (4 * significand - below) * scale
    value := 4 * significand * scale
    high := (4 * significand + 2) * scale
    denominator := denominator
    closed := significand % 2 == 0 }

/-- A quotient lies in the interval. -/
def Interval.holds (interval : Interval) (numerator denominator : Nat) : Bool :=
  let point := numerator * interval.denominator
  let low := interval.low * denominator
  let high := interval.high * denominator
  if interval.closed then decide (low ≤ point) && decide (point ≤ high)
  else decide (low < point) && decide (point < high)

/-- How many decimal digits stand before the point, zero or less for a value below one. -/
def Interval.magnitude (interval : Interval) : Int :=
  (Nat.toDigits 10 (interval.value * tenTo 400 / interval.denominator)).length - 400

/-- `10 ^ exponent` as a quotient. -/
def powerOfTen (exponent : Int) : Nat × Nat :=
  if 0 ≤ exponent then (tenTo exponent.toNat, 1) else (1, tenTo (-exponent).toNat)

/-- The nearest point of the grid of multiples of `10 ^ exponent` that lies in the interval; of
two equally near ones the even multiple. -/
def Interval.onGrid? (interval : Interval) (exponent : Int) : Option Digits :=
  let (top, bottom) := powerOfTen exponent
  let value := interval.value * bottom
  let unit := interval.denominator * top
  let lower := value / unit
  let lowerHolds := interval.holds (lower * top) bottom
  let upperHolds := interval.holds ((lower + 1) * top) bottom
  let twice := 2 * (value % unit)
  let upperIsNearer := decide (unit < twice) || (twice == unit && lower % 2 == 1)
  if lowerHolds && !(upperHolds && upperIsNearer) then some ⟨lower, exponent⟩
  else if upperHolds then some ⟨lower + 1, exponent⟩
  else none

/-- Divides trailing zeros out of the coefficient, at most `places` of them. -/
def Digits.dropZeros : Nat → Digits → Digits
  | 0, digits => digits
  | places + 1, digits =>
    if digits.coefficient % 10 = 0 then
      dropZeros places ⟨digits.coefficient / 10, digits.exponent + 1⟩
    else digits

/-- The shortest decimal that rounds to the positive double `significand * 2 ^ exponent`. -/
def shortest (significand : Nat) (exponent : Int) : Digits :=
  let interval := Interval.around significand exponent
  let magnitude := interval.magnitude
  let found := (List.range 17).findSome? fun (n : Nat) => interval.onGrid? (magnitude - (n + 1))
  (found.getD ⟨0, 0⟩).dropZeros 17

end SpriteScript.Decimal
