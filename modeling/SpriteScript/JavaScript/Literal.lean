import SpriteScript.Json.Writer
import SpriteScript.Literal
import SpriteScript.Program.Display

/-!
# Arguments and values in generated code

A number that is an integer is written as one, with all of its digits; any other number is
written with the fewest digits that read back. A text argument is written as it stands: a quoted
string is a literal already, and anything else is a name or a piece of an expression. An initial
text value is written as a JSON string. Other data may hold integers that are too long, and then
they cannot be written.
-/

namespace SpriteScript.JavaScript

open SpriteScript

/-- A number. One that is not finite cannot be written. -/
def numberCode (x : Float) : Except Error Text :=
  match Decimal.Binary.ofFloat x with
  | .undefined => .error .badValue
  | .infinite _ => .error .tooLarge
  | .finite .. =>
    match Decimal.toInt? x with
    | some integer => .ok (Decimal.intText integer)
    | none => .ok (Decimal.text x)

/-- The initial value of a variable or of an item of a list. -/
def valueCode : Value → Except Error Text
  | .number value => numberCode value
  | .text content =>
    if content.isWritable then .ok (Json.write { ascii := false } content) else .error .badValue

/-- An initial datum has code only if it can be written, and then the code is its JSON. -/
theorem eq_of_valueCode_text {content : Datum} {code : Text}
    (written : valueCode (.text content) = .ok code) :
    content.isWritable = true ∧ code = Json.write { ascii := false } content := by
  rw [valueCode] at written
  split at written
  · rename_i writable
    exact ⟨writable, (Except.ok.inj written).symm⟩
  · cases written

/-- The code of a datum that can be written: an integer is written as it is, and of anything else
the text that shows it, between quotes. -/
def writableCode : Datum → Text
  | .int value => Decimal.intText value
  | datum => "\"" ++ datum.shown ++ "\""

/-- A datum that is no proper argument. -/
def datumCode (datum : Datum) : Except Error Text :=
  if datum.isWritable then .ok (writableCode datum) else .error .badValue

/-- A datum has code only if it can be written, and then it is the one above. -/
theorem eq_of_datumCode {datum : Datum} {code : Text} (written : datumCode datum = .ok code) :
    datum.isWritable = true ∧ code = writableCode datum := by
  rw [datumCode] at written
  split at written
  · rename_i writable
    exact ⟨writable, (Except.ok.inj written).symm⟩
  · cases written

/-- A datum in place of a number. A text is never equal to the integer that it reads as, so one
that reads as an integer is written between quotes. -/
def looseNumberCode : Datum → Except Error Text
  | .bool value => .ok (if value then "1" else "0")
  | .int value => datumCode (.int value)
  | .float value => numberCode value
  | .text value =>
    if Decimal.isIntegerText value then .ok (Text.quoted value) else .error .badValue
  | _ => .error .wrongType

mutual

/-- An argument. The parts of an expression stand in parentheses with blanks between them. -/
def argumentCode : Argument → Except Error Text
  | .number value => numberCode value
  | .text value => .ok value
  | .expression parts => do
    let codes ← argumentCodes parts
    return "(" ++ Text.joined " " codes ++ ")"
  | .other datum => datumCode datum

/-- Each argument. -/
def argumentCodes : List Argument → Except Error (List Text)
  | [] => .ok []
  | argument :: rest => do
    let code ← argumentCode argument
    let codes ← argumentCodes rest
    return code :: codes

end

/-- An argument used as a name: a text without the quotes at its ends. -/
def nameCode : Argument → Except Error Text
  | .text value => .ok (SpriteScript.Literal.unquote value)
  | argument => argumentCode argument

end SpriteScript.JavaScript
