/-!
# Doubles as integers times powers of two

A double is finite, infinite or undefined, and a finite one is an integer times a power of two.
This module reads that off the bit pattern and goes back from it, and rounds a quotient of
natural numbers to the nearest double. All of it is integer arithmetic, so every statement
about the text of a number can be made about integers.
-/

namespace SpriteScript.Decimal

/-- A power of two. -/
def twoTo (exponent : Nat) : Nat :=
  Nat.pow 2 exponent

/-- A power of ten. -/
def tenTo (exponent : Nat) : Nat :=
  Nat.pow 10 exponent

/-- What a double denotes. A finite one is `significand * 2 ^ exponent` with a sign, where the
exponent is at least -1074 and the significand has 53 bits unless the exponent is -1074. -/
inductive Binary where
  | finite (negative : Bool) (significand : Nat) (exponent : Int)
  | infinite (negative : Bool)
  | undefined
deriving DecidableEq

/-- Reads the sign, the eleven exponent bits and the 52 fraction bits. -/
def Binary.ofFloat (x : Float) : Binary :=
  let bits := x.toBits.toNat
  let negative := decide (twoTo 63 ≤ bits)
  let exponent : Nat := bits / twoTo 52 % twoTo 11
  let fraction := bits % twoTo 52
  if exponent = 2047 then
    if fraction = 0 then .infinite negative else .undefined
  else if exponent = 0 then .finite negative fraction (-1074)
  else .finite negative (twoTo 52 + fraction) ((exponent : Int) - 1075)

/-- The double with this denotation. -/
def Binary.toFloat : Binary → Float
  | .finite negative significand exponent =>
    let magnitude :=
      if significand < twoTo 52 then significand
      else (exponent + 1075).toNat * twoTo 52 + (significand - twoTo 52)
    Float.ofBits ((if negative then twoTo 63 else 0) + magnitude).toUInt64
  | .infinite negative =>
    Float.ofBits ((if negative then twoTo 63 else 0) + 2047 * twoTo 52).toUInt64
  | .undefined => Float.ofBits (2047 * twoTo 52 + twoTo 51).toUInt64

/-- The double is a number, neither infinite nor undefined. -/
def isFinite (x : Float) : Bool :=
  match Binary.ofFloat x with
  | .finite .. => true
  | _ => false

/-- The quotient rounded to the nearest integer, a half to the even neighbour. -/
def roundDiv (numerator denominator : Nat) : Nat :=
  let quotient := numerator / denominator
  let twice := 2 * (numerator % denominator)
  if denominator < twice || (twice == denominator && quotient % 2 == 1) then quotient + 1
  else quotient

/-- `numerator / denominator` divided by `2 ^ exponent`, as a quotient of natural numbers. -/
def scaleDown (exponent : Int) (numerator denominator : Nat) : Nat × Nat :=
  if 0 ≤ exponent then (numerator, denominator * twoTo exponent.toNat)
  else (numerator * twoTo (-exponent).toNat, denominator)

/-- The exponent at which the quotient has 53 bits before the point, or -1074 if it is smaller. -/
def exponentFor (numerator denominator : Nat) : Int :=
  let guess : Int := (Nat.log2 numerator : Int) - Nat.log2 denominator - 53
  let (top, bottom) := scaleDown guess numerator denominator
  max (if twoTo 53 * bottom ≤ top then guess + 1 else guess) (-1074)

/-- The double nearest to a quotient, a half to the even significand. A quotient that rounds to
`2 ^ 1024` or more becomes infinite. -/
def Binary.nearest (negative : Bool) (numerator denominator : Nat) : Binary :=
  if numerator = 0 then .finite negative 0 (-1074)
  else
    let exponent := exponentFor numerator denominator
    let (top, bottom) := scaleDown exponent numerator denominator
    let significand := roundDiv top bottom
    let (significand, exponent) :=
      if significand = twoTo 53 then (twoTo 52, exponent + 1) else (significand, exponent)
    if 971 < exponent then .infinite negative else .finite negative significand exponent

/-- The integer that a double equals, if it is one. -/
def toInt? (x : Float) : Option Int :=
  match Binary.ofFloat x with
  | .finite negative significand exponent =>
    let (top, bottom) := scaleDown (-exponent) significand 1
    if top % bottom = 0 then
      some (if negative then -((top / bottom : Nat) : Int) else (top / bottom : Nat))
    else none
  | _ => none

/-- The double nearest to an integer, and nothing for one that is too large for any. -/
def ofInt? (n : Int) : Option Float :=
  match Binary.nearest (decide (n < 0)) n.natAbs 1 with
  | .infinite _ => none
  | binary => some binary.toFloat

end SpriteScript.Decimal
