import SpriteScript.Datum
import SpriteScript.Decimal.Text
import SpriteScript.Text.Basic

/-!
# Writing JSON

Data is written as JSON either on one line, with a blank after each comma and colon, or with
every item on a line of its own. Text escapes the quote, the backslash and the control
characters; on request it also escapes whatever is not printable ASCII, a character beyond the
basic plane as a pair of surrogates. The infinities and the undefined number have names.
-/

namespace SpriteScript.Json

open SpriteScript.Text

/-- A UTF-16 unit as an escape. -/
def unitEscape (unit : Nat) : Text :=
  "\\u" ++ hexDigits 4 unit

/-- A character by its UTF-16 units. -/
def pointEscape (c : CodePoint) : Text :=
  if c.value < 0x10000 then unitEscape c.value
  else
    let offset := c.value - 0x10000
    unitEscape (0xd800 + offset / 0x400) ++ unitEscape (0xdc00 + offset % 0x400)

/-- One character inside a JSON text. With `ascii` set, only printable ASCII stands for itself. -/
def writtenPoint (ascii : Bool) (c : CodePoint) : Text :=
  if c == '"' then ['\\', '"']
  else if c == '\\' then ['\\', '\\']
  else if c == '\n' then ['\\', 'n']
  else if c == '\r' then ['\\', 'r']
  else if c == '\t' then ['\\', 't']
  else if c.value == 0x08 then ['\\', 'b']
  else if c.value == 0x0c then ['\\', 'f']
  else if c.value < 0x20 then unitEscape c.value
  else if ascii && 0x7f ≤ c.value then pointEscape c
  else [c]

/-- A text between double quotes. -/
def writtenText (ascii : Bool) (text : Text) : Text :=
  "\"" ++ text.flatMap (writtenPoint ascii) ++ "\""

/-- A double, with names for those that are not finite. -/
def writtenFloat (x : Float) : Text :=
  match Decimal.Binary.ofFloat x with
  | .finite .. => Decimal.text x
  | .infinite negative => if negative then "-Infinity" else "Infinity"
  | .undefined => "NaN"

/-- How JSON is laid out: whether only ASCII may be used, and by how many blanks each level is
indented if every item has a line of its own. -/
structure Style where
  ascii : Bool
  indent : Option Nat := none

/-- The line break before an item at a level, if items have lines of their own. -/
def Style.lineBreak (style : Style) (level : Nat) : Text :=
  match style.indent with
  | none => ""
  | some width => '\n' :: List.replicate (width * level) (' ' : CodePoint)

/-- What stands between two items at a level. -/
def Style.separator (style : Style) (level : Nat) : Text :=
  match style.indent with
  | none => ", "
  | some _ => "," ++ style.lineBreak level

/-- Items between brackets; an empty container has nothing between them. -/
def Style.enclose (style : Style) (level : Nat) (opening closing : Text)
    (items : List Text) : Text :=
  if items.isEmpty then opening ++ closing
  else
    opening ++ style.lineBreak (level + 1) ++
      Text.joined (style.separator (level + 1)) items ++
      style.lineBreak level ++ closing

mutual

/-- A datum at a level of nesting. -/
def writeAt (style : Style) (level : Nat) : Datum → Text
  | .null => "null"
  | .bool value => if value then "true" else "false"
  | .int value => Decimal.intText value
  | .float value => writtenFloat value
  | .text value => writtenText style.ascii value
  | .list items => style.enclose level "[" "]" (writeItems style (level + 1) items)
  | .mapping entries => style.enclose level "\x7b" "\x7d" (writeEntries style (level + 1) entries)

/-- Each item of a list. -/
def writeItems (style : Style) (level : Nat) : List Datum → List Text
  | [] => []
  | item :: rest => writeAt style level item :: writeItems style level rest

/-- Each entry of a mapping. -/
def writeEntries (style : Style) (level : Nat) : List (Text × Datum) → List Text
  | [] => []
  | (key, value) :: rest =>
    (writtenText style.ascii key ++ ": " ++ writeAt style level value) ::
      writeEntries style level rest

end

/-- A datum as JSON. -/
def write (style : Style) (datum : Datum) : Text :=
  writeAt style 0 datum

end SpriteScript.Json
