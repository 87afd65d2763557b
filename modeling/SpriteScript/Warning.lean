import SpriteScript.Text.Quoted

/-!
# Warnings

Compiling never stops at a flaw in the source. What is dropped, guessed or left out is reported
as a warning: a code that says what happened and a message that says to what.
-/

namespace SpriteScript

/-- What a warning is about. The first two arise from characters, the next four from tokens and
the last three from blocks. -/
inductive WarningCode where
  | droppedCharacter
  | unterminatedString
  | skippedToken
  | incompleteDeclaration
  | unterminatedExpression
  | unclosedBody
  | unsupportedBlock
  | unsupportedEvent
  | missingArgument
deriving DecidableEq

namespace WarningCode

/-- All codes. -/
def all : List WarningCode :=
  [.droppedCharacter, .unterminatedString, .skippedToken, .incompleteDeclaration,
    .unterminatedExpression, .unclosedBody, .unsupportedBlock, .unsupportedEvent,
    .missingArgument]

/-- The code in words. -/
def title : WarningCode → Text
  | .droppedCharacter => "Dropped character"
  | .unterminatedString => "Unterminated string"
  | .skippedToken => "Skipped token"
  | .incompleteDeclaration => "Incomplete declaration"
  | .unterminatedExpression => "Unterminated expression"
  | .unclosedBody => "Unclosed body"
  | .unsupportedBlock => "Unsupported block"
  | .unsupportedEvent => "Unsupported event"
  | .missingArgument => "Missing argument"

/-- The name by which a code is referred to. -/
def name : WarningCode → Text
  | .droppedCharacter => "DROPPED_CHARACTER"
  | .unterminatedString => "UNTERMINATED_STRING"
  | .skippedToken => "SKIPPED_TOKEN"
  | .incompleteDeclaration => "INCOMPLETE_DECLARATION"
  | .unterminatedExpression => "UNTERMINATED_EXPRESSION"
  | .unclosedBody => "UNCLOSED_BODY"
  | .unsupportedBlock => "UNSUPPORTED_BLOCK"
  | .unsupportedEvent => "UNSUPPORTED_EVENT"
  | .missingArgument => "MISSING_ARGUMENT"

/-- The code with a name. -/
def ofName? (name : Text) : Option WarningCode :=
  all.find? fun code => code.name == name

end WarningCode

/-- A flaw that was noticed. -/
structure Warning where
  code : WarningCode
  message : Text
deriving DecidableEq

namespace Warning

/-- The warning as a line of text. -/
def line (warning : Warning) : Text :=
  warning.code.title ++ ": " ++ warning.message

/-- The warning with its code by name and its message quoted. -/
def display (warning : Warning) : Text :=
  "CompileWarning(" ++ warning.code.name ++ ", " ++ Text.quoted warning.message ++ ")"

end Warning

end SpriteScript
