/-!
# Code points and text

Text is a list of code points. Every number below 0x110000 is one, also the halves of surrogate
pairs: a JSON escape can name such a half on its own, and a program that holds it in a string is
compiled like any other. Characters, which exclude the halves, are code points, so literals may be
used where text is expected.

Here are also the operations on text that every part of the compiler shares: joining, trimming,
searching, and the hexadecimal digits by which escapes name a code point. What leaves the program
is made of characters. Half of a surrogate pair is none, so it is written as an escape.
-/

namespace SpriteScript

/-- A code point. -/
structure CodePoint where
  value : Nat
  bounded : value < 0x110000
deriving DecidableEq

namespace CodePoint

/-- The number of a character is a code point. -/
theorem toNat_lt (c : Char) : c.toNat < 0x110000 := by
  have valid := c.valid
  simp only [UInt32.isValidChar, Nat.isValidChar] at valid
  show c.val.toNat < 0x110000
  omega

/-- The code point of a character. -/
def ofChar (c : Char) : CodePoint :=
  ⟨c.toNat, toNat_lt c⟩

instance : Coe Char CodePoint := ⟨ofChar⟩

/-- The code point with a number; one that is too large gives the replacement character. -/
def ofNat (number : Nat) : CodePoint :=
  if bounded : number < 0x110000 then ⟨number, bounded⟩ else ⟨0xfffd, by decide⟩

/-- The code point is half of a surrogate pair. -/
def isHalf (point : CodePoint) : Bool :=
  0xd800 ≤ point.value && point.value ≤ 0xdfff

/-- The character with this code point, unless it is half of a pair. -/
def char? (point : CodePoint) : Option Char :=
  if point.isHalf then none else some (Char.ofNat point.value)

/-- An ASCII digit. -/
def isDigit (point : CodePoint) : Bool :=
  0x30 ≤ point.value && point.value ≤ 0x39

/-- An ASCII letter. -/
def isLetter (point : CodePoint) : Bool :=
  (0x41 ≤ point.value && point.value ≤ 0x5a) || (0x61 ≤ point.value && point.value ≤ 0x7a)

end CodePoint

/-- A text: its code points in order. -/
abbrev Text := List CodePoint

namespace Text

/-- The text of characters. -/
def ofChars (chars : List Char) : Text :=
  chars.map CodePoint.ofChar

/-- The text of a string. -/
def ofString (string : String) : Text :=
  ofChars string.toList

instance : Coe String Text := ⟨ofString⟩

/-- The parts one after the other, with a separator between each two. -/
def joined (separator : Text) (parts : List Text) : Text :=
  List.intercalate separator parts

/-- Drops the characters that satisfy `drops` from the front. -/
def trimStart (drops : CodePoint → Bool) (text : Text) : Text :=
  text.dropWhile drops

/-- Drops the characters that satisfy `drops` from the back. -/
def trimEnd (drops : CodePoint → Bool) (text : Text) : Text :=
  (text.reverse.dropWhile drops).reverse

/-- Drops the characters that satisfy `drops` from both ends and keeps all that stand between
two kept ones. -/
def trim (drops : CodePoint → Bool) (text : Text) : Text :=
  trimEnd drops (trimStart drops text)

/-- The pattern stands somewhere in the text. -/
def occursIn (pattern : Text) : Text → Bool
  | [] => pattern.isEmpty
  | c :: rest => pattern.isPrefixOf (c :: rest) || occursIn pattern rest

/-- The text without the occurrences of a pattern, found from left to right without overlap.
`skip` more characters belong to the occurrence found last. -/
def removeFrom (pattern : Text) (skip : Nat) : Text → Text
  | [] => []
  | c :: rest =>
    match skip with
    | more + 1 => removeFrom pattern more rest
    | 0 =>
      if pattern.isPrefixOf (c :: rest) then removeFrom pattern (pattern.length - 1) rest
      else c :: removeFrom pattern 0 rest

/-- The text without the occurrences of a pattern that is not empty. -/
def removeAll (pattern text : Text) : Text :=
  removeFrom pattern 0 text

/-- The last `width` hexadecimal digits of a number, most significant first. -/
def hexDigits : Nat → Nat → Text
  | 0, _ => []
  | width + 1, number =>
    hexDigits width (number / 16) ++ [CodePoint.ofChar (Nat.digitChar (number % 16))]

/-- The value of a hexadecimal digit of either case. -/
def hexValue? (c : Char) : Option Nat :=
  if '0' ≤ c && c ≤ '9' then some (c.toNat - '0'.toNat)
  else if 'a' ≤ c && c ≤ 'f' then some (c.toNat - 'a'.toNat + 10)
  else if 'A' ≤ c && c ≤ 'F' then some (c.toNat - 'A'.toNat + 10)
  else none

/-- The number that a list of hexadecimal digits denotes, if all of them are. -/
def hexNumber? (digits : List Char) : Option Nat :=
  digits.foldlM (fun number c => (hexValue? c).map (16 * number + ·)) 0

/-- A text as a string, with an escape for each half of a pair. -/
def plain (text : Text) : String :=
  String.ofList (text.flatMap fun point =>
    match point.char? with
    | some c => [c]
    | none => '\\' :: 'u' :: (hexDigits 4 point.value).filterMap CodePoint.char?)

end Text

end SpriteScript
