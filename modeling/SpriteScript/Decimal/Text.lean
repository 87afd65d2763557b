import SpriteScript.Decimal.Shortest
import SpriteScript.Text.Basic

/-!
# Numbers as text

A number is written with the fewest digits that read back, positionally while its decimal
exponent lies between -4 and 15 and with an exponent mark otherwise. Positional text always has
a fractional part. In generated code a number that is an integer is written as that integer,
with all of its digits and without a sign on zero.

Integers of any size occur in data, but one that is too long is neither read from a text nor
written into one. Integers that doubles denote are far from that limit.
-/

namespace SpriteScript.Decimal

/-- The digits of a decimal with a point: all of them stand before the point at `point`, or zeros
fill the gap between the point and the first of them. -/
def positional (digits : List Char) (point : Int) : List Char :=
  if point ≤ 0 then '0' :: '.' :: List.replicate (-point).toNat '0' ++ digits
  else if digits.length ≤ point.toNat then
    digits ++ List.replicate (point.toNat - digits.length) '0' ++ ['.', '0']
  else digits.take point.toNat ++ '.' :: digits.drop point.toNat

/-- The digits of a decimal with one digit before the point and a signed exponent of at least two
digits. -/
def scientific (digits : List Char) (exponent : Int) : List Char :=
  let mantissa :=
    match digits with
    | first :: second :: rest => first :: '.' :: second :: rest
    | short => short
  let size := Nat.toDigits 10 exponent.natAbs
  let padded := if size.length < 2 then '0' :: size else size
  mantissa ++ 'e' :: (if exponent < 0 then '-' else '+') :: padded

/-- The text of a positive finite double. -/
def magnitudeText (significand : Nat) (exponent : Int) : List Char :=
  let decimal := shortest significand exponent
  let digits := Nat.toDigits 10 decimal.coefficient
  let leading := decimal.exponent + digits.length - 1
  if -4 ≤ leading ∧ leading < 16 then positional digits (leading + 1) else scientific digits leading

/-- The text of a double. -/
def text (x : Float) : Text :=
  match Binary.ofFloat x with
  | .finite negative significand exponent =>
    let magnitude := if significand = 0 then ['0', '.', '0'] else magnitudeText significand exponent
    Text.ofChars (if negative then '-' :: magnitude else magnitude)
  | .infinite negative => if negative then "-inf" else "inf"
  | .undefined => "nan"

/-- The text of an integer. -/
def intText (n : Int) : Text :=
  let digits := Nat.toDigits 10 n.natAbs
  Text.ofChars (if n < 0 then '-' :: digits else digits)

/-- The most digits of an integer that is read from a text or written into one. -/
def maxIntegerDigits : Nat := 4300

/-- The integer has few enough digits to be written. Its sign does not count. -/
def isShort (n : Int) : Bool :=
  decide ((Nat.toDigits 10 n.natAbs).length ≤ maxIntegerDigits)

/-- A number has at most some digits exactly if it is below that power of ten. -/
theorem length_toDigits_le_iff (number : Nat) {digits : Nat} (positive : 0 < digits) :
    (Nat.toDigits 10 number).length ≤ digits ↔ number < tenTo digits :=
  Nat.length_toDigits_le_iff (by decide) positive

/-- The short integers are those below the first power of ten that has too many digits. -/
theorem isShort_iff (n : Int) : isShort n = true ↔ n.natAbs < tenTo maxIntegerDigits := by
  rw [isShort, decide_eq_true_iff]
  exact length_toDigits_le_iff n.natAbs (by decide)

/-- That power of ten is too long itself. -/
theorem isShort_tenTo : isShort (tenTo maxIntegerDigits) = false := by
  rw [← Bool.not_eq_true, isShort_iff, Int.natAbs_natCast]
  exact Nat.lt_irrefl _

end SpriteScript.Decimal
