import SpriteScript.Cursor
import SpriteScript.Error
import SpriteScript.Text.Classes
import SpriteScript.Token

/-!
# Lexers

A lexer stands in a source text that was trimmed at both ends. It gives one token at a time or
all that are left, and collects the warnings.
-/

namespace SpriteScript

/-- A lexer: the trimmed text, the place in it, and the warnings so far. -/
structure Lexer where
  text : Text
  cursor : Cursor CodePoint
  warnings : List Warning := []

namespace Lexer

/-- A lexer at the start of a text. -/
def ofText (source : Text) : Lexer :=
  let trimmed := Text.trim Text.isBlank source
  { text := trimmed, cursor := { rest := trimmed } }

/-- A lexer for a source, which must be a text. -/
def ofSource : Datum → Except Error Lexer
  | .text source => .ok (ofText source)
  | other => .error (.sourceNotText other)

/-- Moves by one character. -/
def advance (lexer : Lexer) : Lexer :=
  { lexer with cursor := lexer.cursor.advance }

/-- The next token, or nothing at the end of the text. -/
def next (lexer : Lexer) : Option Text × Lexer :=
  let found := Token.scan lexer.cursor.rest
  (found.token?,
    { lexer with
      cursor := lexer.cursor.moveTo found.rest
      warnings := lexer.warnings ++ found.warnings })

/-- All tokens that are left. -/
def tokenize (lexer : Lexer) : List Text × Lexer :=
  let (tokens, warnings) := Token.tokenize lexer.cursor.rest
  (tokens,
    { lexer with
      cursor := lexer.cursor.moveTo []
      warnings := lexer.warnings ++ warnings })

end Lexer

/-- The tokens of a source text. -/
def tokenize (source : Text) : List Text :=
  (Lexer.ofText source).tokenize.1

end SpriteScript
