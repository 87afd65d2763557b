import SpriteScript.Decimal.Text
import SpriteScript.Text.LowerCase

/-!
# Numerals

A numeral is an optional sign, digits with at most one point among, before or after them, and an
optional exponent. Its digits may belong to any script. `Numeral.scan` takes the longest numeral
that a text begins with. Its value is the double nearest to the decimal that it denotes.
-/

namespace SpriteScript.Decimal

open SpriteScript.Text

/-- The parts of a numeral. The digits are kept as they are written. -/
structure Numeral where
  negative : Bool
  whole : Text
  fraction : Text
  exponentNegative : Bool
  exponentDigits : Text

/-- Takes an optional sign; the flag is set for a minus. -/
def scanSign : Text → Bool × Text
  | [] => (false, [])
  | c :: rest =>
    if c == '+' then (false, rest)
    else if c == '-' then (true, rest)
    else (false, c :: rest)

/-- Takes the digits at the front. -/
def scanDigits (text : Text) : Text × Text :=
  (text.takeWhile isDecimalDigit, text.dropWhile isDecimalDigit)

/-- Takes a point and the digits after it; the digits may be missing. -/
def scanFraction? : Text → Option (Text × Text)
  | [] => none
  | c :: afterPoint => if c == '.' then some (scanDigits afterPoint) else none

/-- Takes whole digits and, after a point, fraction digits. There must be a digit: a point alone
is no numeral, though one may end it. -/
def scanMantissa? (text : Text) : Option ((Text × Text) × Text) :=
  let (whole, afterWhole) := scanDigits text
  match scanFraction? afterWhole with
  | some (fraction, rest) =>
    if whole.isEmpty && fraction.isEmpty then none else some ((whole, fraction), rest)
  | none => if whole.isEmpty then none else some ((whole, []), afterWhole)

/-- Takes an exponent if a complete one follows; a mark without digits belongs to what follows
the numeral. -/
def scanExponent (text : Text) : (Bool × Text) × Text :=
  match text with
  | mark :: afterMark =>
    if mark == 'e' || mark == 'E' then
      let (negative, afterSign) := scanSign afterMark
      let (digits, rest) := scanDigits afterSign
      if digits.isEmpty then ((false, []), text) else ((negative, digits), rest)
    else ((false, []), text)
  | [] => ((false, []), text)

/-- The longest numeral at the front of a text, with what follows it. -/
def Numeral.scan (text : Text) : Option (Numeral × Text) :=
  let (negative, afterSign) := scanSign text
  (scanMantissa? afterSign).map fun ((whole, fraction), afterMantissa) =>
    let ((exponentNegative, exponentDigits), rest) := scanExponent afterMantissa
    ({ negative, whole, fraction, exponentNegative, exponentDigits }, rest)

/-- The number that decimal digits denote. -/
def digitsNumber (digits : Text) : Nat :=
  digits.foldl (fun number c => 10 * number + (digitValue? c).getD 0) 0

/-- The double nearest to `coefficient * 10 ^ exponent`. Decimals that lie far outside the range
of doubles are settled by their size alone. -/
def ofDecimal (negative : Bool) (coefficient : Nat) (exponent : Int) : Binary :=
  let size := exponent + (Nat.toDigits 10 coefficient).length
  if coefficient = 0 || decide (size < -400) then .finite negative 0 (-1074)
  else if 400 < size then .infinite negative
  else if 0 ≤ exponent then Binary.nearest negative (coefficient * tenTo exponent.toNat) 1
  else Binary.nearest negative coefficient (tenTo (-exponent).toNat)

/-- The double nearest to what the numeral denotes; infinite when it is too large. -/
def Numeral.value (numeral : Numeral) : Float :=
  let size : Int := digitsNumber numeral.exponentDigits
  let exponent := (if numeral.exponentNegative then -size else size) - numeral.fraction.length
  (ofDecimal numeral.negative (digitsNumber (numeral.whole ++ numeral.fraction)) exponent).toFloat

/-- Removes underscores that stand between two digits; there may be no others. `afterDigit` says
that a digit comes before the text. -/
def joinDigitGroups (afterDigit : Bool) : Text → Option Text
  | [] => some []
  | c :: rest =>
    if c == '_' then
      if afterDigit && rest.head?.any isDecimalDigit then joinDigitGroups false rest else none
    else (joinDigitGroups (isDecimalDigit c) rest).map (c :: ·)

/-- The blanks that may surround the text of a number: all but the four ASCII separators. -/
def surroundsNumber (c : CodePoint) : Bool :=
  isBlank c && !(0x1c ≤ c.value && c.value ≤ 0x1f)

/-- The text is one of the words, in any case. -/
def isWord (words : List Text) (text : Text) : Bool :=
  words.contains (text.flatMap fun c => if c.isLetter then lowerPoint c else [c])

/-- Reads a whole text as a number. Besides numerals, whose digits may be grouped by underscores,
it takes the names of the infinities and of the undefined number in any case. -/
def read? (text : Text) : Option Float :=
  let trimmed := trim surroundsNumber text
  let (negative, unsigned) := scanSign trimmed
  if isWord ["inf", "infinity"] unsigned then some (Binary.infinite negative).toFloat
  else if isWord ["nan"] unsigned then some Binary.undefined.toFloat
  else
    (joinDigitGroups false trimmed).bind fun joined =>
      match Numeral.scan joined with
      | some (numeral, []) => some numeral.value
      | _ => none

/-- The whole text reads as an integer: digits with an optional sign, which may be grouped and
surrounded like those of any number. -/
def isIntegerText (text : Text) : Bool :=
  match joinDigitGroups false (scanSign (trim surroundsNumber text)).2 with
  | none => false
  | some digits =>
    !digits.isEmpty && digits.all isDecimalDigit && digits.length ≤ maxIntegerDigits

end SpriteScript.Decimal
