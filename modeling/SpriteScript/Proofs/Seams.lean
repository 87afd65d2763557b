import SpriteScript.Proofs.Relexing

/-!
# Texts are cut apart at a separator

A blank character continues no token outside of strings and begins none. A segmentation
of a text without an unclosed string therefore stays what it is when blanks and another
text follow it, and the segmentation of the other text goes on from there.

Trimming may take blanks from the ends of two texts that stand in the middle when these
are put together. There they belong to a gap, so no token knows about them. At the end
the same blanks are trimmed in both cases, unless the second text has nothing else.
-/

namespace SpriteScript

namespace Text

/-- What is kept in the second text keeps the first. -/
theorem trimEnd_append_of_kept {drops : CodePoint → Bool} {second : Text}
    (kept : ∃ c ∈ second, drops c = false) (first : Text) :
    trimEnd drops (first ++ second) = first ++ trimEnd drops second := by
  have remains : (second.reverse.dropWhile drops).isEmpty = false := by
    obtain ⟨c, member, keeps⟩ := kept
    rw [List.isEmpty_eq_false_iff, ne_eq, List.dropWhile_eq_nil_iff]
    intro all
    rw [all c (List.mem_reverse.mpr member)] at keeps
    cases keeps
  rw [trimEnd, List.reverse_append, List.dropWhile_append, remains, if_neg (by decide),
    List.reverse_append, List.reverse_reverse, trimEnd]

/-- A second text that is dropped is dropped before the end of the first. -/
theorem trimEnd_append_of_dropped {drops : CodePoint → Bool} {second : Text}
    (dropped : ∀ c ∈ second, drops c = true) (first : Text) :
    trimEnd drops (first ++ second) = trimEnd drops first := by
  have gone : second.reverse.dropWhile drops = [] := by
    rw [List.dropWhile_eq_nil_iff]
    exact fun c member => dropped c (List.mem_reverse.mp member)
  rw [trimEnd, List.reverse_append, List.dropWhile_append, gone, if_pos List.isEmpty_nil, trimEnd]

/-- A text is its trimmed text between what was dropped. -/
theorem exists_trim (drops : CodePoint → Bool) (text : Text) :
    ∃ before after, text = before ++ (trim drops text ++ after) ∧
      (∀ c ∈ before, drops c = true) ∧ ∀ c ∈ after, drops c = true := by
  have front := List.takeWhile_append_dropWhile (p := drops) (l := text)
  have back := List.takeWhile_append_dropWhile (p := drops) (l := (trimStart drops text).reverse)
  refine ⟨text.takeWhile drops, ((trimStart drops text).reverse.takeWhile drops).reverse,
    ?_, ?_, ?_⟩
  · rw [trim, trimEnd, ← List.reverse_append, back, List.reverse_reverse, trimStart, front]
  · exact fun c => List.mem_takeWhile_imp
  · exact fun c member => List.mem_takeWhile_imp (List.mem_reverse.mp member)

/-- Trimming the end only leaves what was dropped in front. -/
theorem exists_trimEnd (drops : CodePoint → Bool) (text : Text) :
    ∃ before, trimEnd drops text = before ++ trim drops text ∧ ∀ c ∈ before, drops c = true := by
  obtain ⟨before, after, whole, front, back⟩ := exists_trim drops text
  cases kept : trim drops text with
  | nil =>
    refine ⟨[], ?_, List.forall_mem_nil _⟩
    rw [kept, List.nil_append] at whole
    have all : ∀ c ∈ text, drops c = true := by
      rw [whole, List.forall_mem_append]
      exact ⟨front, back⟩
    exact trimEnd_append_of_dropped all []
  | cons c rest =>
    have here := (ends_trim drops text).1 c (by rw [kept]; rfl)
    refine ⟨before, ?_, front⟩
    -- The end of the trimmed text is not dropped, so trimming ends there.
    have tight := (trim_eq_self_iff drops (c :: rest)).mpr (kept ▸ ends_trim drops text)
    rw [trim, trimStart, List.dropWhile_cons_of_neg (by simp [here])] at tight
    rw [whole, kept, trimEnd_append_of_kept ⟨c, by simp, here⟩, trimEnd_append_of_dropped back,
      tight]

/-- A text in front of which every token ends: it is empty or begins with a blank. -/
def BeginsBlank (text : Text) : Prop :=
  ∀ c, text.head? = some c → isBlank c = true

end Text

namespace Token

/-- A blank character is skipped, whatever follows it. -/
theorem skipped_blank {c : CodePoint} (blank : Text.isBlank c = true) (after : Text) :
    Skipped c after := by
  obtain ⟨notBracket, notQuote, notWord, notNumber, notMinus⟩ := blank_only blank
  simp only [isWordPart, Bool.or_eq_false_iff] at notWord
  exact .inr ⟨notBracket, notQuote, notWord.1.1, notWord.1.2, fun negative => notMinus negative.1⟩

/-- Blanks are a gap in front of anything. -/
theorem gap_blank {gap : Text} (blank : ∀ c ∈ gap, Text.isBlank c = true) (after : Text) :
    Gap gap after := by
  induction gap with
  | nil => trivial
  | cons c rest inductionHypothesis =>
    obtain ⟨here, later⟩ := List.forall_mem_cons.mp blank
    exact ⟨skipped_blank here _, inductionHypothesis later⟩

/-- What separates tokens is blank. -/
theorem blank_of_separator {c : CodePoint} (separator : isSeparator c = true) :
    Text.isBlank c = true := by
  simp only [isSeparator, Text.isBlank, Bool.or_eq_true, Bool.and_eq_true, beq_iff_eq,
    decide_eq_true_eq, eq_ofChar_iff, Char.reduceToNat] at separator ⊢
  omega

/-- A class without blanks that has ended has ended in front of a blank, too. -/
theorem ended_append {p : CodePoint → Bool} (visible : ∀ c, Text.isBlank c = true → p c = false)
    {after later : Text} (ended : ∀ point, after.head? = some point → p point = false)
    (begins : later.BeginsBlank) :
    ∀ point, (after ++ later).head? = some point → p point = false := by
  intro point first
  cases after with
  | nil => exact visible point (begins point first)
  | cons c rest => exact ended point first

/-- A token that is no unclosed string stands before a blank as it stood at the end. -/
theorem Stands.append {token after later : Text} (stands : Stands token after)
    (closed : isUnclosed token = false) (begins : later.BeginsBlank) :
    Stands token (after ++ later) := by
  cases stands with
  | bracket c after bracket => exact .bracket c _ bracket
  | word c part after letter inside ended =>
    refine .word c part _ letter inside (ended_append ?_ ended begins)
    exact fun c blank => (blank_only blank).2.2.1
  | number sign c part after signed digit inside ended =>
    refine .number sign c part _ signed digit inside (ended_append ?_ ended begins)
    exact fun c blank => (blank_only blank).2.2.2.1
  | quoted quote inner after opens inside => exact .quoted quote inner _ opens inside
  | unclosed quote inner opens inside => simp [isUnclosed, opens, inside] at closed

/-- A character that is skipped in front of a text is skipped in front of a longer one, if
a blank stands between. -/
theorem Skipped.append {c : CodePoint} {after later : Text} (skipped : Skipped c after)
    (begins : later.BeginsBlank) : Skipped c (after ++ later) := by
  rcases skipped with separator | ⟨notBracket, notQuote, notLetter, notDigit, notNegative⟩
  · exact .inl separator
  · refine .inr ⟨notBracket, notQuote, notLetter, notDigit, ?_⟩
    rintro ⟨minus, digit⟩
    -- A digit after the minus was there before, since no digit is blank.
    cases after with
    | cons first rest => exact notNegative ⟨minus, digit⟩
    | nil =>
      cases later with
      | nil => cases digit
      | cons first rest =>
        have notNumber := (blank_only (begins first rfl)).2.2.2.1
        simp only [isNumberPart, Bool.or_eq_false_iff] at notNumber
        have digit : first.isDigit = true := digit
        rw [notNumber.1] at digit
        cases digit

/-- A gap stays a gap in front of more text, if that begins with a blank. -/
theorem Gap.append {gap after later : Text} (skipped : Gap gap after)
    (begins : later.BeginsBlank) : Gap gap (after ++ later) := by
  induction gap with
  | nil => trivial
  | cons c rest inductionHypothesis =>
    refine ⟨?_, inductionHypothesis skipped.2⟩
    rw [← List.append_assoc]
    exact skipped.1.append begins

/-- One gap in front of another. -/
theorem Gap.before {gap next after : Text} (skipped : Gap gap (next ++ after))
    (nextSkipped : Gap next after) : Gap (gap ++ next) after := by
  induction gap with
  | nil => exact nextSkipped
  | cons c rest inductionHypothesis =>
    have here : Skipped c (rest ++ (next ++ after)) := skipped.1
    rw [← List.append_assoc] at here
    exact ⟨here, inductionHypothesis skipped.2⟩

end Token

namespace Segmentation

/-- One cut text after another. The gap at the end of the first and the one at the front of
the second become one. -/
def append : Segmentation → Segmentation → Segmentation
  | .last gap, .last final => .last (gap ++ final)
  | .last gap, .next between token later => .next (gap ++ between) token later
  | .next gap token later, other => .next gap token (later.append other)

/-- Segmentations one after the other cut the texts one after the other. -/
theorem text_append (cut other : Segmentation) :
    (cut.append other).text = cut.text ++ other.text := by
  induction cut with
  | last gap => cases other <;> simp [append, text]
  | next gap token later inductionHypothesis => simp [append, text, inductionHypothesis]

/-- Segmentations one after the other have the tokens of both. Where they meet only gaps
are joined. -/
theorem tokens_append (cut other : Segmentation) :
    (cut.append other).tokens = cut.tokens ++ other.tokens := by
  induction cut with
  | last gap => cases other <;> rfl
  | next gap token later inductionHypothesis => simp [append, tokens, inductionHypothesis]

/-- No token is a string that is not closed. -/
def Closed (cut : Segmentation) : Prop :=
  ∀ token ∈ cut.tokens, Token.isUnclosed token = false

/-- A cut text may have more of a gap in front of it. -/
theorem Proper.after_gap {gap : Text} {cut : Segmentation} (proper : cut.Proper)
    (skipped : Token.Gap gap cut.text) : ((Segmentation.last gap).append cut).Proper := by
  cases cut with
  | last final =>
    have ended : Token.Gap final [] := proper
    exact Token.Gap.before (by rwa [List.append_nil]) ended
  | next between token later =>
    obtain ⟨betweenSkipped, stands, laterProper⟩ := proper
    exact ⟨skipped.before betweenSkipped, stands, laterProper⟩

/-- A cut text without unclosed strings stays as it is when another follows that begins with
a blank: each token and each gap stands where it stood, with more after it. -/
theorem Proper.append {cut other : Segmentation} (proper : cut.Proper) (closed : cut.Closed)
    (otherProper : other.Proper) (begins : other.text.BeginsBlank) :
    (cut.append other).Proper := by
  induction cut with
  | last gap =>
    have skipped : Token.Gap gap [] := proper
    exact otherProper.after_gap (skipped.append begins)
  | next gap token later inductionHypothesis =>
    obtain ⟨skipped, stands, laterProper⟩ := proper
    obtain ⟨here, laterClosed⟩ := List.forall_mem_cons.mp closed
    refine ⟨?_, ?_, inductionHypothesis laterProper laterClosed⟩
    · rw [text_append, ← List.append_assoc]
      exact skipped.append begins
    · rw [text_append]
      exact stands.append here begins

/-- Without a warning of an unclosed string there is none. -/
theorem Proper.closed {cut : Segmentation} (proper : cut.Proper)
    (unwarned : ∀ warning ∈ cut.warnings, warning.code ≠ .unterminatedString) : cut.Closed := by
  induction cut with
  | last gap => nofun
  | next gap token later inductionHypothesis =>
    rw [warnings_next proper, List.forall_mem_append, List.forall_mem_append] at unwarned
    obtain ⟨_, here, laterUnwarned⟩ := unwarned
    refine List.forall_mem_cons.mpr ⟨?_, inductionHypothesis proper.2.2 laterUnwarned⟩
    by_contra unclosed
    have unclosed : Token.isUnclosed token = true := by simpa using unclosed
    rw [tokenWarning?, if_pos unclosed] at here
    exact here ⟨.unterminatedString, token⟩ (Option.mem_toList.mpr rfl) rfl

end Segmentation

namespace Token

/-- Blanks in front of a text are no part of a token. -/
theorem tokens_after_blank {gap : Text} (blank : ∀ c ∈ gap, Text.isBlank c = true) (text : Text) :
    (tokenize (gap ++ text)).1 = (tokenize text).1 := by
  obtain ⟨cut, proper, rfl⟩ := Segmentation.exists_proper text
  have preceded := proper.after_gap (gap_blank blank cut.text)
  have whole := Segmentation.text_append (.last gap) cut
  rw [Segmentation.text] at whole
  rw [← whole, preceded.tokenize, proper.tokenize, Segmentation.tokens_append]
  rfl

/-- After blanks a cut text goes on with the tokens of what follows. -/
theorem tokens_parted {cut : Segmentation} (proper : cut.Proper) (closed : cut.Closed)
    {gap : Text} (blank : ∀ c ∈ gap, Text.isBlank c = true) (present : gap ≠ []) (text : Text) :
    (tokenize (cut.text ++ (gap ++ text))).1 = cut.tokens ++ (tokenize text).1 := by
  obtain ⟨other, otherProper, whole⟩ := Segmentation.exists_proper (gap ++ text)
  have begins : other.text.BeginsBlank := by
    obtain ⟨c, rest, rfl⟩ := List.exists_cons_of_ne_nil present
    rw [whole]
    rintro point ⟨⟩
    exact blank c List.mem_cons_self
  have joined := proper.append closed otherProper begins
  have later : other.tokens = (tokenize text).1 := by
    rw [← tokens_after_blank blank, ← whole, otherProper.tokenize]
  rw [← whole, ← Segmentation.text_append, joined.tokenize, Segmentation.tokens_append, later]

end Token

/-- The blanks in front of a source need not be trimmed. -/
theorem tokenize_eq_trimEnd (source : Text) :
    tokenize source = (Token.tokenize (Text.trimEnd Text.isBlank source)).1 := by
  obtain ⟨before, trimmed, blank⟩ := Text.exists_trimEnd Text.isBlank source
  rw [trimmed, Token.tokens_after_blank blank]
  rfl

/-- A separator between two texts cuts them apart if the first has no unclosed string: the
tokens are those of the first and then those of the second. -/
theorem tokenize_separated (first second : Text) (separator : CodePoint)
    (separates : Token.isSeparator separator = true)
    (unwarned : ∀ warning ∈ (Lexer.ofText first).tokenize.2.warnings,
      warning.code ≠ .unterminatedString) :
    tokenize (first ++ separator :: second) = tokenize first ++ tokenize second := by
  have blank := Token.blank_of_separator separates
  rw [tokenize_eq_trimEnd (first ++ separator :: second), tokenize_eq_trimEnd second]
  by_cases nothing : ∀ c ∈ second, Text.isBlank c = true
  · -- Only the first text is left, trimmed as it is on its own.
    have dropped : ∀ c ∈ separator :: second, Text.isBlank c = true :=
      List.forall_mem_cons.mpr ⟨blank, nothing⟩
    have empty : Text.trimEnd Text.isBlank second = [] :=
      Text.trimEnd_append_of_dropped nothing []
    have none : (Token.tokenize []).1 = [] := by
      rw [Token.tokenize_eq]
      rfl
    rw [Text.trimEnd_append_of_dropped dropped, ← tokenize_eq_trimEnd, empty, none, List.append_nil]
  · -- The end of the second text is trimmed, and what was trimmed from the first is a gap.
    have kept : ∃ c ∈ second, Text.isBlank c = false := by simpa using nothing
    obtain ⟨cut, proper, whole⟩ := Segmentation.exists_proper (Text.trim Text.isBlank first)
    obtain ⟨tokens, warnings⟩ := tokenize_of_proper proper whole
    obtain ⟨before, after, parts, front, back⟩ := Text.exists_trim Text.isBlank first
    have gap : ∀ c ∈ after ++ [separator], Text.isBlank c = true := by
      rw [List.forall_mem_append]
      exact ⟨back, List.forall_mem_singleton.mpr blank⟩
    have apart : Text.trimEnd Text.isBlank (first ++ separator :: second) =
        before ++ (cut.text ++ ((after ++ [separator]) ++ Text.trimEnd Text.isBlank second)) := by
      rw [List.append_cons, Text.trimEnd_append_of_kept kept, whole]
      conv => lhs; rw [parts]
      simp only [List.append_assoc]
    rw [apart, Token.tokens_after_blank front,
      Token.tokens_parted proper (proper.closed (warnings ▸ unwarned)) gap (by simp), tokens]

/-- The first text ends in a minus and a blank that would be trimmed, and the second begins
with such a blank and a digit and ends in a string that is not closed. -/
theorem tokenize_separated_mixed :
    (∀ warning ∈ (Lexer.ofText "say 'a b' -\u00a0").tokenize.2.warnings,
        warning.code ≠ .unterminatedString) ∧
      tokenize ("say 'a b' -\u00a0" ++ ('\t' : CodePoint) :: ("\u00a05. \"\u00a0c" : Text)) =
        [("say" : Text), ("'a b'" : Text), ("5." : Text), ("\"\u00a0c" : Text)] := by
  have first : (Segmentation.next [] "say" (.next " " "'a b'" (.last " -"))).Proper := by
    refine ⟨trivial, ?_, ⟨.inl rfl, trivial⟩, ?_, .inl rfl, .inr (by decide), trivial⟩
    · exact .word _ _ _ rfl (by decide) (by decide)
    · exact .quoted _ "a b" _ rfl (by decide)
  have second : (Segmentation.next [] "5." (.next " " "\"\u00a0c" (.last []))).Proper := by
    refine ⟨trivial, ?_, ⟨.inl rfl, trivial⟩, ?_, trivial⟩
    · exact .number [] _ _ _ (.inl rfl) rfl (by decide) (by decide)
    · exact .unclosed _ _ rfl (by decide)
  obtain ⟨firstTokens, warnings⟩ :=
    tokenize_of_proper first (show _ = Text.trim Text.isBlank "say 'a b' -\u00a0" by decide)
  obtain ⟨secondTokens, _⟩ :=
    tokenize_of_proper second (show _ = Text.trim Text.isBlank "\u00a05. \"\u00a0c" by decide)
  have unwarned : ∀ warning ∈ (Lexer.ofText "say 'a b' -\u00a0").tokenize.2.warnings,
      warning.code ≠ .unterminatedString := by
    rw [warnings]
    decide
  refine ⟨unwarned, ?_⟩
  rw [tokenize_separated _ _ '\t' rfl unwarned, firstTokens, secondTokens]
  rfl

end SpriteScript
