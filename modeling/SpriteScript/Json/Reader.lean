import SpriteScript.Datum
import SpriteScript.Decimal.Numeral
import SpriteScript.Table
import SpriteScript.Text.Basic

/-!
# Reading JSON

The reader takes exactly one value with blanks around it. It follows the JSON grammar, allows
the names `NaN`, `Infinity` and `-Infinity` for numbers, refuses control characters inside text,
and lets the last of several entries with one key win. An integer of more than
`Decimal.maxIntegerDigits` digits is refused.
-/

namespace SpriteScript.Json

open SpriteScript.Text

/-- The blanks of JSON. -/
def isSpace (c : Char) : Bool :=
  c == ' ' || c == '\t' || c == '\n' || c == '\r'

/-- Skips blanks. -/
def skipSpace (text : List Char) : List Char :=
  text.dropWhile isSpace

/-- The character that a one-letter escape stands for. -/
def escaped? : Char → Option Char
  | '"' => some '"'
  | '\\' => some '\\'
  | '/' => some '/'
  | 'b' => some (Char.ofNat 0x08)
  | 'f' => some (Char.ofNat 0x0c)
  | 'n' => some '\n'
  | 'r' => some '\r'
  | 't' => some '\t'
  | _ => none

/-- The unit opens a surrogate pair. -/
def isHighSurrogate (unit : Nat) : Bool :=
  0xd800 ≤ unit && unit ≤ 0xdbff

/-- The unit closes a surrogate pair. -/
def isLowSurrogate (unit : Nat) : Bool :=
  0xdc00 ≤ unit && unit ≤ 0xdfff

/-- The characters of a sequence of code points and UTF-16 units: two halves of a pair that
follow each other are one code point, and half of a pair on its own stays what it is. -/
def joinUnits : List Nat → Text
  | [] => []
  | [unit] => [.ofNat unit]
  | unit :: next :: rest =>
    if isHighSurrogate unit && isLowSurrogate next then
      .ofNat (0x10000 + (unit - 0xd800) * 0x400 + (next - 0xdc00)) :: joinUnits rest
    else .ofNat unit :: joinUnits (next :: rest)

/-- Reads what follows an opening quote up to its closing quote. A plain character gives its code
point and an escape the unit that it names. -/
def readUnits : List Char → Option (List Nat × List Char)
  | [] => none
  | '"' :: rest => some ([], rest)
  | '\\' :: 'u' :: a :: b :: c :: d :: rest =>
    match hexNumber? [a, b, c, d] with
    | none => none
    | some unit => (readUnits rest).map fun (units, after) => (unit :: units, after)
  | '\\' :: c :: rest =>
    match escaped? c with
    | none => none
    | some plain => (readUnits rest).map fun (units, after) => (plain.toNat :: units, after)
  | c :: rest =>
    if c.toNat < 0x20 || c == '\\' then none
    else (readUnits rest).map fun (units, after) => (c.toNat :: units, after)

/-- Reads the text that follows an opening quote. -/
def readText (text : List Char) : Option (Text × List Char) :=
  (readUnits text).map fun (units, after) => (joinUnits units, after)

/-- Takes ASCII digits. -/
def takeDigits (text : List Char) : List Char × List Char :=
  (text.takeWhile Char.isDigit, text.dropWhile Char.isDigit)

/-- Takes the digits before the point: a zero alone or digits that start with another. -/
def readWhole : List Char → Option (List Char × List Char)
  | '0' :: rest => some (['0'], rest)
  | text =>
    let (digits, rest) := takeDigits text
    if digits.isEmpty then none else some (digits, rest)

/-- Takes a point with digits, if both are there. -/
def readFraction (text : List Char) : Option (List Char) × List Char :=
  match text with
  | '.' :: afterPoint =>
    let (digits, rest) := takeDigits afterPoint
    if digits.isEmpty then (none, text) else (some digits, rest)
  | _ => (none, text)

/-- Takes an optional sign; the flag is set for a minus. -/
def readSign : List Char → Bool × List Char
  | '+' :: rest => (false, rest)
  | '-' :: rest => (true, rest)
  | rest => (false, rest)

/-- Takes an exponent with its digits, if both are there. -/
def readExponent (text : List Char) : Option (Bool × List Char) × List Char :=
  match text with
  | mark :: afterMark =>
    if mark == 'e' || mark == 'E' then
      let (negative, afterSign) := readSign afterMark
      let (digits, rest) := takeDigits afterSign
      if digits.isEmpty then (none, text) else (some (negative, digits), rest)
    else (none, text)
  | [] => (none, text)

/-- Reads a number: an integer unless it has a fraction or an exponent. -/
def readNumber (text : List Char) : Option (Datum × List Char) :=
  let (negative, unsigned) :=
    match text with
    | '-' :: rest => (true, rest)
    | _ => (false, text)
  match readWhole unsigned with
  | none => none
  | some (whole, afterWhole) =>
    let (fraction, afterFraction) := readFraction afterWhole
    let (exponent, rest) := readExponent afterFraction
    match fraction, exponent with
    | none, none =>
      if Decimal.maxIntegerDigits < whole.length then none
      else
        let magnitude : Int := Decimal.digitsNumber (Text.ofChars whole)
        some (.int (if negative then -magnitude else magnitude), rest)
    | _, _ =>
      let (exponentNegative, exponentDigits) := exponent.getD (false, [])
      let numeral : Decimal.Numeral :=
        { negative
          whole := Text.ofChars whole
          fraction := Text.ofChars (fraction.getD [])
          exponentNegative
          exponentDigits := Text.ofChars exponentDigits }
      some (.float numeral.value, rest)

mutual

/-- Reads the value at the front. `bound` limits the steps; twice the length is enough. -/
def readValue : Nat → List Char → Option (Datum × List Char)
  | 0, _ => none
  | bound + 1, text =>
    match text with
    | '"' :: rest => (readText rest).map fun (content, after) => (.text content, after)
    | '\x7b' :: rest =>
      match skipSpace rest with
      | '\x7d' :: after => some (.mapping [], after)
      | inner =>
        (readEntries bound inner).map fun (entries, after) =>
          (.mapping (entries.foldl (fun known (key, value) => upsert key value known) []), after)
    | '[' :: rest =>
      match skipSpace rest with
      | ']' :: after => some (.list [], after)
      | inner => (readItems bound inner).map fun (items, after) => (.list items, after)
    | 'n' :: 'u' :: 'l' :: 'l' :: rest => some (.null, rest)
    | 't' :: 'r' :: 'u' :: 'e' :: rest => some (.bool true, rest)
    | 'f' :: 'a' :: 'l' :: 's' :: 'e' :: rest => some (.bool false, rest)
    | 'N' :: 'a' :: 'N' :: rest => some (.float Decimal.Binary.undefined.toFloat, rest)
    | 'I' :: 'n' :: 'f' :: 'i' :: 'n' :: 'i' :: 't' :: 'y' :: rest =>
      some (.float (Decimal.Binary.infinite false).toFloat, rest)
    | '-' :: 'I' :: 'n' :: 'f' :: 'i' :: 'n' :: 'i' :: 't' :: 'y' :: rest =>
      some (.float (Decimal.Binary.infinite true).toFloat, rest)
    | _ => readNumber text

/-- Reads the items of a list that has at least one, and its closing bracket. -/
def readItems : Nat → List Char → Option (List Datum × List Char)
  | 0, _ => none
  | bound + 1, text =>
    match readValue bound text with
    | none => none
    | some (item, afterItem) =>
      match skipSpace afterItem with
      | ']' :: after => some ([item], after)
      | ',' :: more =>
        (readItems bound (skipSpace more)).map fun (items, after) => (item :: items, after)
      | _ => none

/-- Reads the entries of a mapping that has at least one, and its closing brace. -/
def readEntries : Nat → List Char → Option (List (Text × Datum) × List Char)
  | 0, _ => none
  | bound + 1, text =>
    match text with
    | '"' :: afterQuote =>
      match readText afterQuote with
      | none => none
      | some (key, afterKey) =>
        match skipSpace afterKey with
        | ':' :: afterColon =>
          match readValue bound (skipSpace afterColon) with
          | none => none
          | some (value, afterValue) =>
            match skipSpace afterValue with
            | '\x7d' :: after => some ([(key, value)], after)
            | ',' :: more =>
              (readEntries bound (skipSpace more)).map fun (entries, after) =>
                ((key, value) :: entries, after)
            | _ => none
        | _ => none
    | _ => none

end

/-- Reads a text that is one JSON value with blanks around it. -/
def read? (text : String) : Option Datum :=
  let chars := text.toList
  match readValue (2 * chars.length + 2) (skipSpace chars) with
  | some (datum, rest) => if (skipSpace rest).isEmpty then some datum else none
  | none => none

end SpriteScript.Json
