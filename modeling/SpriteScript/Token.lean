import SpriteScript.Warning

/-!
# Tokens

Source text is cut into tokens from left to right. A token is a bracket, a quoted string with
its quotes, a number, or a word. Blanks, tabs and line ends separate tokens; any other character
that begins none is dropped with a warning. A number is taken by its look, as digits and points;
what it denotes is not asked here. A string that is not closed reaches to the end.
-/

namespace SpriteScript.Token

/-- The characters that separate tokens without a warning. -/
def isSeparator (c : CodePoint) : Bool :=
  c == ' ' || c == '\t' || c == '\r' || c == '\n'

/-- The brackets, each a token of its own. -/
def isBracket (c : CodePoint) : Bool :=
  c == '(' || c == ')' || c == '[' || c == ']' || c == '\x7b' || c == '\x7d'

/-- The two quotes. -/
def isQuote (c : CodePoint) : Bool :=
  c == '"' || c == '\''

/-- What may follow the first character of a number. -/
def isNumberPart (c : CodePoint) : Bool :=
  c.isDigit || c == '.'

/-- What may follow the first letter of a word. -/
def isWordPart (c : CodePoint) : Bool :=
  c.isLetter || c.isDigit || c == '_'

/-- The text begins with an ASCII digit. -/
def startsWithDigit : Text → Bool
  | [] => false
  | c :: _ => c.isDigit

/-- A token that stands at the front of a text, with what follows it. -/
structure Lexeme where
  chars : Text
  rest : Text
  closed : Bool := true

/-- The string that a quote opens; it ends at the same quote. -/
def quotedLexeme (quote : CodePoint) (rest : Text) : Lexeme :=
  let inner := rest.takeWhile (· != quote)
  match rest.dropWhile (· != quote) with
  | [] => { chars := quote :: inner, rest := [], closed := false }
  | _ :: after => { chars := quote :: inner ++ [quote], rest := after }

/-- The token at the front of a text, if one begins there. A minus belongs to a number only if a
digit follows it. -/
def lexeme? : Text → Option Lexeme
  | [] => none
  | c :: rest =>
    if isBracket c then some { chars := [c], rest }
    else if isQuote c then some (quotedLexeme c rest)
    else if c.isDigit || (c == '-' && startsWithDigit rest) then
      some { chars := c :: rest.takeWhile isNumberPart, rest := rest.dropWhile isNumberPart }
    else if c.isLetter then
      some { chars := c :: rest.takeWhile isWordPart, rest := rest.dropWhile isWordPart }
    else none

/-- The warning that a character was dropped. -/
def droppedWarning (c : CodePoint) : Warning :=
  ⟨.droppedCharacter, Text.quoted [c]⟩

/-- The warnings that come with a token: one if it is a string that is not closed. -/
def Lexeme.warnings (lexeme : Lexeme) : List Warning :=
  if lexeme.closed then [] else [⟨.unterminatedString, lexeme.chars⟩]

/-- The next token, what follows it, and the warnings on the way to it. -/
structure Scan where
  token? : Option Text
  rest : Text
  warnings : List Warning

/-- Looks for the next token. -/
def scan : Text → Scan
  | [] => ⟨none, [], []⟩
  | c :: rest =>
    if isSeparator c then scan rest
    else
      match lexeme? (c :: rest) with
      | some lexeme => ⟨some lexeme.chars, lexeme.rest, lexeme.warnings⟩
      | none =>
        let later := scan rest
        { later with warnings := droppedWarning c :: later.warnings }

/-- A quoted token ends within the text, so what is left is no longer than it. -/
theorem quotedLexeme_rest_le (quote : CodePoint) (rest : Text) :
    (quotedLexeme quote rest).rest.length ≤ rest.length := by
  have bound : (rest.dropWhile (· != quote)).length ≤ rest.length :=
    (List.dropWhile_suffix _).length_le
  unfold quotedLexeme
  split
  · simp
  · rename_i after left
    rw [left] at bound
    simp only [List.length_cons] at bound
    exact Nat.le_of_succ_le bound

/-- A token takes at least its first character. -/
theorem lexeme_rest_lt {text : Text} {lexeme : Lexeme} (found : lexeme? text = some lexeme) :
    lexeme.rest.length < text.length := by
  cases text with
  | nil => simp [lexeme?] at found
  | cons c rest =>
    have numberBound : (rest.dropWhile isNumberPart).length ≤ rest.length :=
      (List.dropWhile_suffix _).length_le
    have wordBound : (rest.dropWhile isWordPart).length ≤ rest.length :=
      (List.dropWhile_suffix _).length_le
    have quotedBound := quotedLexeme_rest_le c rest
    simp only [lexeme?] at found
    simp only [List.length_cons]
    grind

/-- Finding a token leaves less to read. -/
theorem scan_rest_lt {text : Text} {token : Text}
    (found : (scan text).token? = some token) : (scan text).rest.length < text.length := by
  induction text with
  | nil => simp [scan] at found
  | cons c rest inductionHypothesis =>
    simp only [scan] at found ⊢
    split
    · rename_i separator
      simp only [separator, ↓reduceIte] at found
      have bound := inductionHypothesis found
      simp only [List.length_cons]
      omega
    · rename_i other
      simp only [other, Bool.false_eq_true, ↓reduceIte] at found
      cases begins : lexeme? (c :: rest) with
      | some lexeme =>
        have bound := lexeme_rest_lt begins
        simpa using bound
      | none =>
        simp only [begins] at found ⊢
        have bound := inductionHypothesis found
        simp only [List.length_cons]
        omega

/-- Cuts a text into its tokens. -/
def tokenize (text : Text) : List Text × List Warning :=
  match _found : (scan text).token? with
  | none => ([], (scan text).warnings)
  | some token =>
    let later := tokenize (scan text).rest
    (token :: later.1, (scan text).warnings ++ later.2)
termination_by text.length
decreasing_by exact scan_rest_lt _found

end SpriteScript.Token
