import Mathlib.Data.List.TakeWhile
import SpriteScript.Lexer

/-!
# Tokens and the gaps between them

A text is a gap, a token, a gap, a token and so on up to a last gap. Which tokens
there can be is said by their own characters and by the one that follows: a word
or a number does not end before a character that continues it. Which characters
can stand in a gap is said by the character and the one after it. Nothing here
says how a text is searched.

Every text has exactly one such segmentation. Its tokens are those that a lexer
gives, and its gaps are the reason for all warnings but one.
-/

namespace SpriteScript

namespace Token

/-- A token in front of what follows it in the text. A string that is not closed
reaches to the end, so nothing follows it. -/
inductive Stands : Text → Text → Prop where
  | bracket (c : CodePoint) (after : Text) (bracket : isBracket c = true) : Stands [c] after
  | word (c : CodePoint) (part after : Text) (letter : c.isLetter = true)
      (inside : ∀ point ∈ part, isWordPart point = true)
      (ended : ∀ point, after.head? = some point → isWordPart point = false) :
      Stands (c :: part) after
  | number (sign : Text) (c : CodePoint) (part after : Text)
      (signed : sign = [] ∨ sign = [('-' : CodePoint)]) (digit : c.isDigit = true)
      (inside : ∀ point ∈ part, isNumberPart point = true)
      (ended : ∀ point, after.head? = some point → isNumberPart point = false) :
      Stands (sign ++ c :: part) after
  | quoted (quote : CodePoint) (inner after : Text) (opens : isQuote quote = true)
      (inside : quote ∉ inner) : Stands (quote :: inner ++ [quote]) after
  | unclosed (quote : CodePoint) (inner : Text) (opens : isQuote quote = true)
      (inside : quote ∉ inner) : Stands (quote :: inner) []

/-- A token that is a string without its closing quote: it begins with a quote that does
not occur again. -/
def isUnclosed : Text → Bool
  | [] => false
  | c :: inner => isQuote c && !inner.contains c

/-- A character of a gap in front of what follows it: it separates tokens, or it
begins none. -/
def Skipped (c : CodePoint) (after : Text) : Prop :=
  isSeparator c = true ∨
    (isBracket c = false ∧ isQuote c = false ∧ c.isLetter = false ∧ c.isDigit = false ∧
      ¬ (c = ('-' : CodePoint) ∧ startsWithDigit after = true))

/-- A gap in front of what follows it: each of its characters is skipped where it
stands. -/
def Gap : Text → Text → Prop
  | [], _ => True
  | c :: rest, after => Skipped c (rest ++ after) ∧ Gap rest after

end Token

/-- A text cut into tokens, each with the gap before it, and the gap after the
last one. -/
inductive Segmentation where
  | last (gap : Text)
  | next (gap token : Text) (later : Segmentation)

namespace Segmentation

/-- The text that was cut. Nothing is lost in a cut, as each character is in a token or in
a gap. -/
def text : Segmentation → Text
  | .last gap => gap
  | .next gap token later => gap ++ (token ++ later.text)

/-- The tokens in order. -/
def tokens : Segmentation → List Text
  | .last _ => []
  | .next _ token later => token :: later.tokens

/-- The gaps in order. -/
def gaps : Segmentation → List Text
  | .last gap => [gap]
  | .next gap _ later => gap :: later.gaps

/-- Every token and every gap stands in front of what follows it. -/
def Proper : Segmentation → Prop
  | .last gap => Token.Gap gap []
  | .next gap token later =>
    Token.Gap gap (token ++ later.text) ∧ Token.Stands token later.text ∧ later.Proper

/-- The warnings for a gap: one for each character that is no separator. Separators are
dropped without a word. -/
def gapWarnings (gap : Text) : List Warning :=
  (gap.filter fun c => !Token.isSeparator c).map Token.droppedWarning

/-- The warning for a token, if it is a string that is not closed. Such a string is kept as
a token all the same. -/
def tokenWarning? (token : Text) : Option Warning :=
  if Token.isUnclosed token then some ⟨.unterminatedString, token⟩ else none

/-- The warnings for the characters of all gaps, and then the one for the last
token. -/
def warnings (cut : Segmentation) : List Warning :=
  gapWarnings cut.gaps.flatten ++ (cut.tokens.getLast?.bind tokenWarning?).toList

end Segmentation

namespace Token

/-- A class of characters is taken to its end: up to the first that is not in it. Words and
numbers are taken in this way. -/
theorem takeWhile_ended {p : CodePoint → Bool} {part after : Text}
    (inside : ∀ point ∈ part, p point = true)
    (ended : ∀ point, after.head? = some point → p point = false) :
    (part ++ after).takeWhile p = part ∧ (part ++ after).dropWhile p = after := by
  rw [List.takeWhile_append_of_pos inside, List.dropWhile_append_of_pos inside]
  cases after with
  | nil => simp
  | cons point rest => simp [ended point rfl]

/-- What is left after a class of characters does not begin with one of them. -/
theorem head_dropWhile {p : CodePoint → Bool} (text : Text) :
    ∀ point, (text.dropWhile p).head? = some point → p point = false := by
  intro point first
  have stopped := List.head?_dropWhile_not p text
  rw [first] at stopped
  simpa using stopped

/-- A code point is a given character when it has its number. With this the classes of
characters are compared as ranges. -/
theorem eq_ofChar_iff (c : CodePoint) (char : Char) :
    c = CodePoint.ofChar char ↔ c.value = char.toNat := by
  obtain ⟨value, bounded⟩ := c
  simp [CodePoint.ofChar]

/-- A bracket is no separator and no quote. -/
theorem bracket_only {c : CodePoint} (bracket : isBracket c = true) :
    isSeparator c = false ∧ isQuote c = false := by
  simp only [isBracket, isSeparator, isQuote, Bool.or_eq_true, Bool.or_eq_false_iff, beq_iff_eq,
    beq_eq_false_iff_ne, ne_eq, eq_ofChar_iff, Char.reduceToNat] at bracket ⊢
  omega

/-- A quote is no separator and no bracket. -/
theorem quote_only {c : CodePoint} (quote : isQuote c = true) :
    isSeparator c = false ∧ isBracket c = false := by
  simp only [isBracket, isSeparator, isQuote, Bool.or_eq_true, Bool.or_eq_false_iff, beq_iff_eq,
    beq_eq_false_iff_ne, ne_eq, eq_ofChar_iff, Char.reduceToNat] at quote ⊢
  omega

/-- A letter begins nothing but a word. The branches of the lexer are tried in order, and
this shows that the earlier ones do not apply. -/
theorem letter_only {c : CodePoint} (letter : c.isLetter = true) :
    isSeparator c = false ∧ isBracket c = false ∧ isQuote c = false ∧ c.isDigit = false ∧
      c ≠ ('-' : CodePoint) := by
  simp only [CodePoint.isLetter, CodePoint.isDigit, isBracket, isSeparator, isQuote,
    Bool.or_eq_true, Bool.and_eq_true, Bool.or_eq_false_iff, Bool.and_eq_false_iff,
    decide_eq_true_eq, decide_eq_false_iff_not, beq_eq_false_iff_ne, ne_eq, eq_ofChar_iff,
    Char.reduceToNat] at letter ⊢
  omega

/-- A digit begins nothing but a number. -/
theorem digit_only {c : CodePoint} (digit : c.isDigit = true) :
    isSeparator c = false ∧ isBracket c = false ∧ isQuote c = false := by
  simp only [CodePoint.isDigit, isBracket, isSeparator, isQuote, Bool.and_eq_true,
    Bool.or_eq_false_iff, decide_eq_true_eq, beq_eq_false_iff_ne, ne_eq, eq_ofChar_iff,
    Char.reduceToNat] at digit ⊢
  omega

/-- A token is found where it stands, and no more than it is taken. The class of
its first character selects the branch; the character after it ends the token. -/
theorem Stands.lexeme? {token after : Text} (stands : Stands token after) :
    lexeme? (token ++ after) =
      some { chars := token, rest := after, closed := !isUnclosed token } := by
  cases stands with
  | bracket c after bracket =>
    simp [Token.lexeme?, isUnclosed, bracket, bracket_only bracket]
  | word c part after letter inside ended =>
    obtain ⟨_, notBracket, notQuote, notDigit, notMinus⟩ := letter_only letter
    simp [Token.lexeme?, isUnclosed, letter, notBracket, notQuote, notDigit, notMinus,
      takeWhile_ended inside ended]
  | number sign c part after signed digit inside ended =>
    obtain ⟨_, notBracket, notQuote⟩ := digit_only digit
    rcases signed with rfl | rfl
    · simp [Token.lexeme?, isUnclosed, digit, notBracket, notQuote, takeWhile_ended inside ended]
    · have minus : isBracket '-' = false ∧ isQuote '-' = false := by decide
      have taken : ∀ point ∈ c :: part, isNumberPart point = true := by
        simpa [isNumberPart, digit] using inside
      have whole := takeWhile_ended taken ended
      simp only [List.cons_append] at whole
      simp [Token.lexeme?, isUnclosed, startsWithDigit, digit, minus, whole]
  | quoted quote inner after opens inside =>
    obtain ⟨_, notBracket⟩ := quote_only opens
    have other : ∀ point ∈ inner, (point != quote) = true := by
      intro point member
      simpa using fun same : point = quote => inside (same ▸ member)
    have stops : ∀ point, (quote :: after).head? = some point → (point != quote) = false := by simp
    have taken := takeWhile_ended other stops
    simp [Token.lexeme?, quotedLexeme, isUnclosed, opens, notBracket, taken]
  | unclosed quote inner opens inside =>
    obtain ⟨_, notBracket⟩ := quote_only opens
    have other : ∀ point ∈ inner, (point != quote) = true := by
      intro point member
      simpa using fun same : point = quote => inside (same ▸ member)
    have taken := @takeWhile_ended (· != quote) inner [] other (by simp)
    rw [List.append_nil] at taken
    simp [Token.lexeme?, quotedLexeme, isUnclosed, opens, notBracket, taken, inside]

/-- Every token has a first character, which is no separator. So a gap before it ends where
the token begins. -/
theorem Stands.begins {token after : Text} (stands : Stands token after) :
    ∃ c part, token = c :: part ∧ isSeparator c = false := by
  cases stands with
  | bracket c after bracket => exact ⟨c, [], rfl, (bracket_only bracket).1⟩
  | word c part after letter => exact ⟨c, part, rfl, (letter_only letter).1⟩
  | number sign c part after signed digit =>
    rcases signed with rfl | rfl
    · exact ⟨c, part, rfl, (digit_only digit).1⟩
    · exact ⟨'-', c :: part, rfl, by decide⟩
  | quoted quote inner after opens => exact ⟨quote, _, rfl, (quote_only opens).1⟩
  | unclosed quote inner opens => exact ⟨quote, inner, rfl, (quote_only opens).1⟩

/-- A string that is not closed has nothing after it. -/
theorem Stands.after_unclosed {token after : Text} (stands : Stands token after)
    (unclosed : isUnclosed token = true) : after = [] := by
  cases stands with
  | bracket c after bracket => simp [isUnclosed, bracket_only bracket] at unclosed
  | word c part after letter => simp [isUnclosed, letter_only letter] at unclosed
  | number sign c part after signed digit =>
    rcases signed with rfl | rfl
    · simp [isUnclosed, digit_only digit] at unclosed
    · have minus : isQuote '-' = false := by decide
      simp [isUnclosed, minus] at unclosed
  | quoted quote inner after opens => simp [isUnclosed] at unclosed
  | unclosed quote inner opens inside => rfl

/-- At every character a token stands or the character is skipped. The cases are the
branches of the lexer, and the last of them skips. -/
theorem stands_or_skipped (c : CodePoint) (rest : Text) :
    (∃ token after, c :: rest = token ++ after ∧ Stands token after) ∨ Skipped c rest := by
  by_cases bracket : isBracket c = true
  · exact .inl ⟨[c], rest, rfl, .bracket c rest bracket⟩
  by_cases opens : isQuote c = true
  · have inside : c ∉ rest.takeWhile (· != c) := by
      intro member
      simpa using List.mem_takeWhile_imp member
    have whole := List.takeWhile_append_dropWhile (p := (· != c)) (l := rest)
    cases left : rest.dropWhile (· != c) with
    | nil =>
      rw [left, List.append_nil] at whole
      rw [whole] at inside
      exact .inl ⟨c :: rest, [], by simp, .unclosed c rest opens inside⟩
    | cons stop after =>
      have stopped := head_dropWhile rest stop (by rw [left]; rfl)
      have same : stop = c := bne_eq_false_iff_eq.mp stopped
      subst same
      rw [left] at whole
      refine .inl ⟨stop :: rest.takeWhile (· != stop) ++ [stop], after, ?_, .quoted stop _ after opens inside⟩
      simp [whole]
  by_cases digit : c.isDigit = true
  · refine .inl ⟨c :: rest.takeWhile isNumberPart, rest.dropWhile isNumberPart, by simp, ?_⟩
    exact .number [] c _ _ (.inl rfl) digit (fun _ => List.mem_takeWhile_imp) (head_dropWhile rest)
  by_cases letter : c.isLetter = true
  · refine .inl ⟨c :: rest.takeWhile isWordPart, rest.dropWhile isWordPart, by simp, ?_⟩
    exact .word c _ _ letter (fun _ => List.mem_takeWhile_imp) (head_dropWhile rest)
  by_cases negative : c = ('-' : CodePoint) ∧ startsWithDigit rest = true
  · obtain ⟨rfl, starts⟩ := negative
    cases rest with
    | nil => cases starts
    | cons first digits =>
      refine .inl ⟨'-' :: first :: digits.takeWhile isNumberPart, digits.dropWhile isNumberPart,
        by simp, ?_⟩
      exact .number ['-'] first _ _ (.inr rfl) starts (fun _ => List.mem_takeWhile_imp)
        (head_dropWhile digits)
  · exact .inr (.inr ⟨by simpa using bracket, by simpa using opens, by simpa using letter,
      by simpa using digit, negative⟩)

/-- No token is found at a character that is skipped, unless it is a separator. Separators
are passed over before a token is looked for. -/
theorem Skipped.lexeme? {c : CodePoint} {after : Text} (skipped : Skipped c after)
    (other : isSeparator c = false) : lexeme? (c :: after) = none := by
  rcases skipped with separator | ⟨notBracket, notQuote, notLetter, notDigit, notNegative⟩
  · rw [other] at separator
    cases separator
  · simpa [Token.lexeme?, notBracket, notQuote, notLetter, notDigit] using notNegative

/-- Searching passes over a gap and reports what it drops, in the order of the characters.
-/
theorem Gap.scan {gap after : Text} (skipped : Gap gap after) :
    scan (gap ++ after) =
      { scan after with
        warnings := Segmentation.gapWarnings gap ++ (scan after).warnings } := by
  induction gap with
  | nil => rfl
  | cons c rest inductionHypothesis =>
    obtain ⟨here, later⟩ := skipped
    rw [List.cons_append, Token.scan, inductionHypothesis later]
    by_cases separator : isSeparator c = true
    · simp [separator, Segmentation.gapWarnings]
    · rw [Bool.not_eq_true] at separator
      simp [separator, Segmentation.gapWarnings, here.lexeme? separator]

/-- Searching ends at a token. -/
theorem Stands.scan {token after : Text} (stands : Stands token after) :
    scan (token ++ after) =
      ⟨some token, after, (Segmentation.tokenWarning? token).toList⟩ := by
  obtain ⟨c, part, rfl, other⟩ := stands.begins
  have found := stands.lexeme?
  rw [List.cons_append] at found ⊢
  rw [Token.scan, other, found]
  by_cases unclosed : isUnclosed (c :: part) = true
  · simp [Lexeme.warnings, Segmentation.tokenWarning?, unclosed]
  · simp [Lexeme.warnings, Segmentation.tokenWarning?, unclosed]

/-- Every text begins with a gap, up to a token or to its end. The gap may be empty, and it
is as long as it can be. -/
theorem exists_gap (text : Text) :
    Gap text [] ∨ ∃ gap token after, text = gap ++ (token ++ after) ∧
      Gap gap (token ++ after) ∧ Stands token after := by
  induction text with
  | nil => exact .inl trivial
  | cons c rest inductionHypothesis =>
    rcases stands_or_skipped c rest with ⟨token, after, whole, stands⟩ | skipped
    · exact .inr ⟨[], token, after, whole, trivial, stands⟩
    · rcases inductionHypothesis with ended | ⟨gap, token, after, rfl, later, stands⟩
      · exact .inl ⟨by simpa using skipped, ended⟩
      · exact .inr ⟨c :: gap, token, after, rfl, ⟨skipped, later⟩, stands⟩

/-- Cutting a text takes one token after the other. The warnings of each search come before
those of what follows. -/
theorem tokenize_eq (text : Text) :
    tokenize text =
      match (scan text).token? with
      | none => ([], (scan text).warnings)
      | some token =>
        (token :: (tokenize (scan text).rest).1,
          (scan text).warnings ++ (tokenize (scan text).rest).2) := by
  rw [tokenize]
  split
  · rename_i ended
    rw [ended]
  · rename_i found
    rw [found]

end Token

namespace Segmentation

/-- Every text has a segmentation: a gap and a token, if there is one, and then a
segmentation of what follows, which is shorter. -/
theorem exists_proper (text : Text) : ∃ cut : Segmentation, cut.Proper ∧ cut.text = text := by
  induction room : text.length using Nat.strongRecOn generalizing text with
  | ind size inductionHypothesis =>
    rcases Token.exists_gap text with ended | ⟨gap, token, after, whole, skipped, stands⟩
    · exact ⟨.last text, ended, rfl⟩
    · obtain ⟨c, part, begins, _⟩ := stands.begins
      have shorter : after.length < size := by
        simp only [← room, whole, begins, List.length_append, List.length_cons]
        omega
      obtain ⟨later, proper, rfl⟩ := inductionHypothesis after.length shorter after rfl
      exact ⟨.next gap token later, ⟨skipped, stands, proper⟩, whole.symm⟩

/-- Searching a text that is cut ends at the first token of the cut. The search depends on
the text alone, so every cut has this first token. -/
theorem scan_next {gap token : Text} {later : Segmentation}
    (proper : (Segmentation.next gap token later).Proper) :
    Token.scan (Segmentation.next gap token later).text =
      ⟨some token, later.text, gapWarnings gap ++ (tokenWarning? token).toList⟩ := by
  obtain ⟨skipped, stands, _⟩ := proper
  rw [text, skipped.scan, stands.scan]

/-- Searching a text without tokens reaches its end. -/
theorem scan_last {gap : Text} (proper : (Segmentation.last gap).Proper) :
    Token.scan (Segmentation.last gap).text = ⟨none, [], gapWarnings gap⟩ := by
  have passed := Token.Gap.scan proper
  rw [List.append_nil] at passed
  rw [text, passed]
  simp [Token.scan]

/-- A text is cut in one way only. Searching it gives the first token and what
follows, and with both of them the gap is given, too. -/
theorem Proper.unique {cut other : Segmentation} (proper : cut.Proper) (otherProper : other.Proper)
    (same : cut.text = other.text) : cut = other := by
  induction cut generalizing other with
  | last gap =>
    cases other with
    | last otherGap => exact congrArg _ same
    | next otherGap token later =>
      have found := scan_next otherProper
      rw [← same, scan_last proper] at found
      cases found
  | next gap token later inductionHypothesis =>
    have found := scan_next proper
    cases other with
    | last otherGap =>
      rw [same, scan_last otherProper] at found
      cases found
    | next otherGap otherToken otherLater =>
      rw [same, scan_next otherProper, Token.Scan.mk.injEq, Option.some.injEq] at found
      obtain ⟨rfl, rest, _⟩ := found
      obtain rfl := inductionHypothesis proper.2.2 otherProper.2.2 rest.symm
      rw [text, text, List.append_cancel_right_eq] at same
      rw [same]

/-- The warnings of a segmentation come with its parts: those for a gap, then the
one for the token. A string that is not closed ends the text, so its warning is
the last. -/
theorem warnings_next {gap token : Text} {later : Segmentation}
    (proper : (Segmentation.next gap token later).Proper) :
    (Segmentation.next gap token later).warnings =
      gapWarnings gap ++ ((tokenWarning? token).toList ++ later.warnings) := by
  obtain ⟨_, stands, laterProper⟩ := proper
  have split : gapWarnings (gap ++ later.gaps.flatten) =
      gapWarnings gap ++ gapWarnings later.gaps.flatten := by
    simp [gapWarnings]
  rw [warnings, warnings, gaps, tokens, List.flatten_cons, split, List.append_assoc]
  congr 1
  cases later with
  | last final =>
    by_cases unclosed : Token.isUnclosed token = true
    · have nothing : final = [] := stands.after_unclosed unclosed
      simp [gaps, tokens, nothing, gapWarnings]
    · simp [gaps, tokens, tokenWarning?, unclosed]
  | next nextGap nextToken following =>
    have closed : Token.isUnclosed token = false := by
      by_contra unclosed
      have nothing := stands.after_unclosed (by simpa using unclosed)
      obtain ⟨c, part, begins, _⟩ := laterProper.2.1.begins
      simp [text, begins] at nothing
    simp [tokens, tokenWarning?, closed, List.getLast?_cons]

/-- The tokens and the warnings of a text are those of its segmentation. The induction is
on the cut, with one search for each of its tokens. -/
theorem Proper.tokenize {cut : Segmentation} (proper : cut.Proper) :
    Token.tokenize cut.text = (cut.tokens, cut.warnings) := by
  induction cut with
  | last gap =>
    rw [Token.tokenize_eq, scan_last proper]
    simp [tokens, warnings, gaps]
  | next gap token later inductionHypothesis =>
    rw [Token.tokenize_eq, scan_next proper, warnings_next proper, tokens,
      inductionHypothesis proper.2.2]
    simp

end Segmentation

/-- A lexer cuts the trimmed text without loss. There is one way to cut it into
tokens and gaps, and the lexer gives its tokens and its warnings: one for each
character of a gap that is no separator, and then one if the last token is a
string that is not closed. It is then at the end. -/
theorem tokenize_segments (source : Text) :
    ∃ cut : Segmentation, cut.Proper ∧ cut.text = Text.trim Text.isBlank source ∧
      (Lexer.ofText source).tokenize.1 = cut.tokens ∧
      (Lexer.ofText source).tokenize.2.warnings = cut.warnings ∧
      (Lexer.ofText source).tokenize.2.cursor.rest = [] ∧
      ∀ other : Segmentation, other.Proper → other.text = Text.trim Text.isBlank source →
        other = cut := by
  obtain ⟨cut, proper, whole⟩ := Segmentation.exists_proper (Text.trim Text.isBlank source)
  have cutting : Token.tokenize (Text.trim Text.isBlank source) = (cut.tokens, cut.warnings) :=
    whole ▸ proper.tokenize
  refine ⟨cut, proper, whole, ?_, ?_, rfl, ?_⟩
  · exact congrArg Prod.fst cutting
  · exact congrArg Prod.snd cutting
  · exact fun other otherProper otherWhole =>
      otherProper.unique proper (otherWhole.trans whole.symm)

/-- A word up to a minus, a number with two points, a character that is dropped,
and a string that is not closed. -/
theorem tokenize_segments_mixed :
    ∃ cut : Segmentation, cut.Proper ∧ cut.text = "x-5.2.\té'\"a" ∧
      (Lexer.ofText " x-5.2.\té'\"a\n").tokenize.1 =
        [("x" : Text), ("-5.2." : Text), ("'\"a" : Text)] ∧
      (Lexer.ofText " x-5.2.\té'\"a\n").tokenize.2.warnings =
        [⟨.droppedCharacter, "'é'"⟩, ⟨.unterminatedString, "'\"a"⟩] := by
  obtain ⟨cut, _, _, tokens, warnings, _, unique⟩ := tokenize_segments " x-5.2.\té'\"a\n"
  have proper : (Segmentation.next [] "x" (.next [] "-5.2." (.next "\té" "'\"a" (.last [])))).Proper := by
    refine ⟨trivial, ?_, trivial, ?_, ⟨?_, ?_, trivial⟩, ?_, trivial⟩
    · exact .word _ [] _ (by decide) (by simp) (by decide)
    · exact .number ['-'] _ _ _ (.inr rfl) (by decide) (by decide) (by decide)
    · exact .inl (by decide)
    · exact .inr (by decide)
    · exact .unclosed _ _ (by decide) (by decide)
  have same := unique _ proper (by decide)
  rw [tokens, warnings, ← same]
  exact ⟨_, proper, by decide, by decide, by decide⟩

end SpriteScript
