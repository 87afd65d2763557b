import SpriteScript.Datum
import SpriteScript.Decimal.Text
import SpriteScript.Text.Quoted

/-!
# Data in messages

A datum inside a message is written so that its kind can be seen: texts are quoted, lists stand
in brackets and mappings in braces. On its own, a text is shown without quotes.

A datum with an integer in it that is too long cannot be written at all. Whoever shows a datum
asks for that first.
-/

namespace SpriteScript.Datum

mutual

/-- No integer in the datum is too long to be written. -/
def isWritable : Datum → Bool
  | .int value => Decimal.isShort value
  | .list items => itemsWritable items
  | .mapping entries => entriesWritable entries
  | _ => true

/-- Each item can be written. -/
def itemsWritable : List Datum → Bool
  | [] => true
  | item :: rest => item.isWritable && itemsWritable rest

/-- The value of each entry can be written. Keys are texts, and those always can. -/
def entriesWritable : List (Text × Datum) → Bool
  | [] => true
  | (_, value) :: rest => value.isWritable && entriesWritable rest

end

mutual

/-- A datum with quotes around every text in it. -/
def display : Datum → Text
  | .null => "None"
  | .bool value => if value then "True" else "False"
  | .int value => Decimal.intText value
  | .float value => Decimal.text value
  | .text value => Text.quoted value
  | .list items => "[" ++ Text.joined ", " (displayItems items) ++ "]"
  | .mapping entries => "\x7b" ++ Text.joined ", " (displayEntries entries) ++ "\x7d"

/-- Each item on its own. -/
def displayItems : List Datum → List Text
  | [] => []
  | item :: rest => item.display :: displayItems rest

/-- Each entry as a quoted key and its value. -/
def displayEntries : List (Text × Datum) → List Text
  | [] => []
  | (key, value) :: rest => (Text.quoted key ++ ": " ++ value.display) :: displayEntries rest

end

/-- A datum as it is shown on its own: a text by its characters, anything else as inside a
message. -/
def shown : Datum → Text
  | .text value => value
  | other => other.display

end SpriteScript.Datum
