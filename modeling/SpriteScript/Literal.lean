import SpriteScript.Decimal.Numeral
import SpriteScript.Program
import SpriteScript.Token

/-!
# What tokens denote

A token that begins with a numeral, blanks before it aside, denotes the number of the longest one
if that is finite. Otherwise a token denotes itself as an argument, and the text between its
quotes as a value.
-/

namespace SpriteScript.Literal

open SpriteScript

/-- The number that a token denotes: that of the longest numeral it begins with. What follows
the numeral is ignored. -/
def number? (token : Text) : Option Float :=
  match Decimal.Numeral.scan (Text.trimStart Text.isBlank token) with
  | none => none
  | some (numeral, _) => if Decimal.isFinite numeral.value then some numeral.value else none

/-- The token denotes a number. -/
def isNumber (token : Text) : Bool :=
  (number? token).isSome

/-- The token as an argument. -/
def argument (token : Text) : Argument :=
  match number? token with
  | some number => .number number
  | none => .text token

/-- A text without the quotes at its ends. -/
def unquote (text : Text) : Text :=
  Text.trim Token.isQuote text

/-- The token as an initial value. -/
def value (token : Text) : Value :=
  match number? token with
  | some number => .number number
  | none => .text (.text (unquote token))

/-- The token begins with a quote. -/
def isQuoted (token : Text) : Bool :=
  token.head?.any Token.isQuote

end SpriteScript.Literal
