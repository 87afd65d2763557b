import SpriteScript.Proofs.Segmentation

/-!
# Tokens are read again from their text

The token lists that a source can have are told by the tokens alone: each is a
bracket, a word, a number or a closed string, and only the last may be a string that
is not closed. Such tokens with a space between each two are cut as they were joined,
because a space continues no token and separates without a warning.

Trimming takes part at one place only. Neither end of a token is blank, so nothing of
the joined tokens is trimmed; and a string that is not closed ends the trimmed text,
so its last character is not blank.
-/

namespace SpriteScript

namespace Text

/-- Neither end of a trimmed text would be dropped. -/
theorem ends_trim (drops : CodePoint → Bool) (text : Text) :
    (∀ c, (trim drops text).head? = some c → drops c = false) ∧
      ∀ c, (trim drops text).getLast? = some c → drops c = false := by
  constructor
  · intro c begins
    -- What is kept in front of the end begins as the whole does.
    have kept : trim drops text <+: trimStart drops text := by
      rw [← List.reverse_suffix, trim, trimEnd, List.reverse_reverse]
      exact List.dropWhile_suffix _
    obtain ⟨dropped, whole⟩ := kept
    apply Token.head_dropWhile text c
    rw [← trimStart, ← whole, List.head?_append, begins]
    rfl
  · intro c ends
    rw [trim, trimEnd, List.getLast?_reverse] at ends
    exact Token.head_dropWhile _ c ends

/-- A text is left as it is by trimming exactly if neither of its ends is dropped. -/
theorem trim_eq_self_iff (drops : CodePoint → Bool) (text : Text) :
    trim drops text = text ↔
      (∀ c, text.head? = some c → drops c = false) ∧
        ∀ c, text.getLast? = some c → drops c = false := by
  constructor
  · intro same
    have ends := ends_trim drops text
    rwa [same] at ends
  · rintro ⟨first, last⟩
    have kept : ∀ text : Text, (∀ c, text.head? = some c → drops c = false) →
        text.dropWhile drops = text := by
      intro text first
      cases text with
      | nil => rfl
      | cons c rest => simp [first c rfl]
    rw [← List.head?_reverse] at last
    rw [trim, trimStart, kept text first, trimEnd, kept text.reverse last, List.reverse_reverse]

/-- A text with nothing to trim: neither its first nor its last character is blank. -/
structure Tight (text : Text) : Prop where
  first : ∀ c, text.head? = some c → isBlank c = false
  last : ∀ c, text.getLast? = some c → isBlank c = false

/-- Trimming leaves nothing to trim. -/
theorem tight_trim (text : Text) : Tight (trim isBlank text) := by
  obtain ⟨first, last⟩ := ends_trim isBlank text
  exact ⟨first, last⟩

/-- A text without blanks at its ends is left as it is by trimming. -/
theorem Tight.trim {text : Text} (tight : Tight text) : trim isBlank text = text :=
  (trim_eq_self_iff isBlank text).mpr ⟨tight.first, tight.last⟩

/-- Between the first part and the others stands one separator. -/
theorem joined_cons_cons (separator part next : Text) (others : List Text) :
    joined separator (part :: next :: others) =
      part ++ (separator ++ joined separator (next :: others)) := by
  rw [joined, List.intercalate_cons_cons, List.append_assoc]
  rfl

/-- What is kept when texts are put together holds of joined texts. The separator has to
have the property as well. -/
theorem joined_induction {holds : Text → Prop} (empty : holds [])
    (together : ∀ first second, holds first → holds second → holds (first ++ second))
    {separator : Text} {parts : List Text} (between : holds separator)
    (each : ∀ part ∈ parts, holds part) : holds (joined separator parts) := by
  induction parts with
  | nil => exact empty
  | cons part rest inductionHypothesis =>
    obtain ⟨first, later⟩ := List.forall_mem_cons.mp each
    cases rest with
    | nil => simpa [joined] using first
    | cons next others =>
      rw [joined_cons_cons]
      exact together _ _ first (together _ _ between (inductionHypothesis later))

/-- Texts that are joined have the ends of the first and of the last of them. -/
theorem tight_joined (separator : Text) {parts : List Text}
    (tight : ∀ part ∈ parts, part ≠ [] ∧ Tight part) : Tight (joined separator parts) := by
  induction parts with
  | nil => exact ⟨by simp [joined], by simp [joined]⟩
  | cons part rest inductionHypothesis =>
    obtain ⟨nonempty, ends⟩ := tight part List.mem_cons_self
    cases rest with
    | nil => simpa [joined] using ends
    | cons next others =>
      have later := inductionHypothesis fun other member =>
        tight other (List.mem_cons_of_mem part member)
      have present : joined separator (next :: others) ≠ [] := by
        have filled := (tight next (by simp)).1
        cases others with
        | nil => simpa [joined] using filled
        | cons => simp [joined_cons_cons, filled]
      rw [joined_cons_cons]
      refine ⟨?_, ?_⟩
      · intro c begins
        obtain ⟨initial, remaining, rfl⟩ := List.exists_cons_of_ne_nil nonempty
        exact ends.first c begins
      · intro c final
        rw [← List.append_assoc, List.getLast?_append,
          List.getLast?_eq_some_getLast present] at final
        exact later.last c ((List.getLast?_eq_some_getLast present).trans final)

end Text

namespace Token

/-- A token whose end can be seen from its own characters. What follows it in a text may be
anything that would not prolong it. -/
inductive Complete : Text → Prop where
  | bracket (c : CodePoint) (bracket : isBracket c = true) : Complete [c]
  | word (c : CodePoint) (part : Text) (letter : c.isLetter = true)
      (inside : ∀ point ∈ part, isWordPart point = true) : Complete (c :: part)
  | number (sign : Text) (c : CodePoint) (part : Text)
      (signed : sign = [] ∨ sign = [('-' : CodePoint)]) (digit : c.isDigit = true)
      (inside : ∀ point ∈ part, isNumberPart point = true) : Complete (sign ++ c :: part)
  | quoted (quote : CodePoint) (inner : Text) (opens : isQuote quote = true)
      (inside : quote ∉ inner) : Complete (quote :: inner ++ [quote])

/-- A string that is not closed. Its last character, which may be its quote, is not
blank. -/
inductive Unclosed : Text → Prop where
  | opened (quote : CodePoint) (inner : Text) (opens : isQuote quote = true)
      (inside : quote ∉ inner)
      (ends : ∀ c, (quote :: inner).getLast? = some c → Text.isBlank c = false) :
      Unclosed (quote :: inner)

/-- All tokens are complete, except that the last may be a string that is not closed. In
any other place such a string would have taken in what follows it. -/
structure WellFormed (tokens : List Text) : Prop where
  earlier : ∀ token ∈ tokens.dropLast, Complete token
  last : ∀ token, tokens.getLast? = some token → Complete token ∨ Unclosed token

/-- No character of a token outside of strings is blank. Blanks of any script are meant,
not only those that separate tokens. -/
theorem blank_only {c : CodePoint} (blank : Text.isBlank c = true) :
    isBracket c = false ∧ isQuote c = false ∧ isWordPart c = false ∧ isNumberPart c = false ∧
      c ≠ ('-' : CodePoint) := by
  simp only [Text.isBlank, isBracket, isQuote, isWordPart, isNumberPart, CodePoint.isLetter,
    CodePoint.isDigit, Bool.or_eq_true, Bool.and_eq_true, Bool.or_eq_false_iff,
    Bool.and_eq_false_iff, decide_eq_true_eq, decide_eq_false_iff_not, beq_iff_eq,
    beq_eq_false_iff_ne, ne_eq, eq_ofChar_iff, Char.reduceToNat] at blank ⊢
  omega

/-- The characters that can stand at either end of a complete token. -/
theorem unblank_of_class {c : CodePoint}
    (known : isBracket c = true ∨ isQuote c = true ∨ isWordPart c = true ∨
      isNumberPart c = true ∨ c = ('-' : CodePoint)) : Text.isBlank c = false := by
  by_contra blank
  have none := blank_only (by simpa using blank)
  grind

/-- A text of characters that are not blank has nothing to trim. -/
theorem tight_of_forall {text : Text} (visible : ∀ c ∈ text, Text.isBlank c = false) :
    Text.Tight text :=
  ⟨fun c first => visible c (List.mem_of_mem_head? first),
    fun c last => visible c (List.mem_of_getLast? last)⟩

/-- Only a string can have a blank character, and it has a quote at either end. So blanks
are never at the ends of a complete token. -/
theorem Complete.visible_or_quoted {token : Text} (complete : Complete token) :
    (∀ c ∈ token, Text.isBlank c = false) ∨
      ∃ quote inner, isQuote quote = true ∧ token = quote :: inner ++ [quote] := by
  cases complete with
  | bracket c bracket =>
    left
    intro point member
    rw [List.mem_singleton.mp member]
    exact unblank_of_class (.inl bracket)
  | word c part letter inside =>
    left
    intro point member
    rcases List.mem_cons.mp member with rfl | later
    · exact unblank_of_class (.inr (.inr (.inl (by simp [isWordPart, letter]))))
    · exact unblank_of_class (.inr (.inr (.inl (inside point later))))
  | number sign c part signed digit inside =>
    left
    intro point member
    rcases List.mem_append.mp member with first | later
    · rcases signed with rfl | rfl
      · cases first
      · exact unblank_of_class (.inr (.inr (.inr (.inr (List.mem_singleton.mp first)))))
    · rcases List.mem_cons.mp later with rfl | after
      · exact unblank_of_class (.inr (.inr (.inr (.inl (by simp [isNumberPart, digit])))))
      · exact unblank_of_class (.inr (.inr (.inr (.inl (inside point after)))))
  | quoted quote inner opens inside => exact .inr ⟨quote, inner, opens, rfl⟩

/-- A complete token has characters, and none of those at its ends is blank. -/
theorem Complete.tight {token : Text} (complete : Complete token) :
    token ≠ [] ∧ Text.Tight token := by
  constructor
  · cases complete <;> simp
  · rcases complete.visible_or_quoted with visible | ⟨quote, inner, opens, rfl⟩
    · exact tight_of_forall visible
    · have visible := unblank_of_class (.inr (.inl opens))
      constructor
      · rintro c ⟨⟩
        exact visible
      · intro c ends
        rw [List.getLast?_concat, Option.some.injEq] at ends
        exact ends ▸ visible

/-- A token whose quote was not closed has characters, and none of those at its ends is
blank: the first is a quote, and the last is not blank by the shape of such tokens. -/
theorem Unclosed.tight {token : Text} (unclosed : Unclosed token) :
    token ≠ [] ∧ Text.Tight token := by
  obtain ⟨quote, inner, opens, _, ends⟩ := unclosed
  refine ⟨by simp, ?_, ends⟩
  rintro c ⟨⟩
  exact unblank_of_class (.inr (.inl opens))

/-- A complete token stands before a space and at the end. A space belongs to no token that
is not a string, and a closed string ends at its quote. -/
theorem Complete.stands {token after : Text} (complete : Complete token)
    (spaced : ∀ point, after.head? = some point → point = ' ') : Stands token after := by
  cases complete with
  | bracket c bracket => exact .bracket c after bracket
  | word c part letter inside =>
    refine .word c part after letter inside ?_
    intro point first
    rw [spaced point first]
    decide
  | number sign c part signed digit inside =>
    refine .number sign c part after signed digit inside ?_
    intro point first
    rw [spaced point first]
    decide
  | quoted quote inner opens inside => exact .quoted quote inner after opens inside

/-- A token that stands somewhere is complete or not closed. In the second case it reaches
to the end of the text, which is not blank. -/
theorem Stands.complete {token after : Text} (stands : Stands token after)
    (ends : ∀ c, (token ++ after).getLast? = some c → Text.isBlank c = false) :
    Complete token ∨ (Unclosed token ∧ after = []) := by
  cases stands with
  | bracket c after bracket => exact .inl (.bracket c bracket)
  | word c part after letter inside => exact .inl (.word c part letter inside)
  | number sign c part after signed digit inside => exact .inl (.number sign c part signed digit inside)
  | quoted quote inner after opens inside => exact .inl (.quoted quote inner opens inside)
  | unclosed quote inner opens inside =>
    rw [List.append_nil] at ends
    exact .inr ⟨.opened quote inner opens inside ends, rfl⟩

/-- Every token of a well-formed list is complete or not closed. -/
theorem WellFormed.each {tokens : List Text} (formed : WellFormed tokens) :
    ∀ token ∈ tokens, Complete token ∨ Unclosed token := by
  intro token member
  have split := List.dropLast_concat_getLast (List.ne_nil_of_mem member)
  rw [← split] at member
  rcases List.mem_append.mp member with before | here
  · exact .inl (formed.earlier token before)
  · rw [List.mem_singleton.mp here]
    exact formed.last _ (List.getLast?_eq_some_getLast _)

/-- A token before others must be complete. -/
theorem wellFormed_cons_cons {token next : Text} {rest : List Text} :
    WellFormed (token :: next :: rest) ↔ Complete token ∧ WellFormed (next :: rest) := by
  constructor
  · rintro ⟨earlier, last⟩
    rw [List.dropLast_cons_cons, List.forall_mem_cons] at earlier
    rw [List.getLast?_cons_cons] at last
    exact ⟨earlier.1, earlier.2, last⟩
  · rintro ⟨complete, earlier, last⟩
    refine ⟨?_, ?_⟩
    · rw [List.dropLast_cons_cons, List.forall_mem_cons]
      exact ⟨complete, earlier⟩
    · rw [List.getLast?_cons_cons]
      exact last

end Token

namespace Segmentation

/-- Tokens with a space before each, except that the first has `gap` before it. This is the
cut that joined tokens are shown to have. -/
def spaced : Text → List Text → Segmentation
  | _, [] => .last []
  | gap, token :: rest => .next gap token (spaced " " rest)

/-- A segmentation with one gap between its tokens has these tokens. -/
theorem tokens_spaced (gap : Text) (tokens : List Text) : (spaced gap tokens).tokens = tokens := by
  induction tokens generalizing gap with
  | nil => rfl
  | cons token rest inductionHypothesis => rw [spaced, Segmentation.tokens, inductionHypothesis]

/-- The text is that of the joined tokens. -/
theorem text_spaced (gap token : Text) (rest : List Text) :
    (spaced gap (token :: rest)).text = gap ++ Text.joined " " (token :: rest) := by
  induction rest generalizing gap token with
  | nil => simp [spaced, text, Text.joined]
  | cons next others inductionHypothesis =>
    rw [spaced, text, inductionHypothesis, Text.joined_cons_cons]

/-- No character of a gap is reported, because the gaps are single spaces or empty. -/
theorem gapWarnings_spaced {gap : Text} (blank : gap = [] ∨ gap = " ") (tokens : List Text) :
    gapWarnings (spaced gap tokens).gaps.flatten = [] := by
  induction tokens generalizing gap with
  | nil => rfl
  | cons token rest inductionHypothesis =>
    have here : gapWarnings gap = [] := by
      rcases blank with rfl | rfl <;> decide
    have later := @inductionHypothesis " " (.inr rfl)
    rw [gapWarnings, List.map_eq_nil_iff] at here later ⊢
    rw [spaced, gaps, List.flatten_cons, List.filter_append, here, later]
    rfl

/-- Well-formed tokens stand where a space follows each of them. The last token has nothing
after it, so it may be a string that is not closed. -/
theorem proper_spaced {gap : Text} {tokens : List Text} (blank : gap = [] ∨ gap = " ")
    (formed : Token.WellFormed tokens) : (spaced gap tokens).Proper := by
  induction tokens generalizing gap with
  | nil => trivial
  | cons token rest inductionHypothesis =>
    have skipped : ∀ after, Token.Gap gap after := by
      intro after
      rcases blank with rfl | rfl
      · trivial
      · exact ⟨.inl rfl, trivial⟩
    cases rest with
    | nil =>
      refine ⟨skipped _, ?_, trivial⟩
      rcases formed.last token rfl with complete | ⟨quote, inner, opens, inside, _⟩
      · exact complete.stands (by simp [spaced, text])
      · exact .unclosed quote inner opens inside
    | cons next others =>
      obtain ⟨complete, later⟩ := Token.wellFormed_cons_cons.mp formed
      refine ⟨skipped _, complete.stands ?_, inductionHypothesis (.inr rfl) later⟩
      rw [text_spaced]
      rintro point ⟨⟩
      rfl

/-- The tokens of a text whose last character is not blank are well-formed: one that
is not closed reaches to the end. -/
theorem Proper.wellFormed {cut : Segmentation} (proper : cut.Proper)
    (ends : ∀ c, cut.text.getLast? = some c → Text.isBlank c = false) :
    Token.WellFormed cut.tokens := by
  induction cut with
  | last gap => exact ⟨by simp [tokens], by simp [tokens]⟩
  | next gap token later inductionHypothesis =>
    obtain ⟨_, stands, laterProper⟩ := proper
    have endsAfter : ∀ before after : Text, before ++ after = (Segmentation.next gap token later).text →
        ∀ c, after.getLast? = some c → Text.isBlank c = false := by
      intro before after whole c final
      apply ends c
      rw [← whole, List.getLast?_append, final, Option.some_or]
    have laterFormed := inductionHypothesis laterProper
      (endsAfter (gap ++ token) later.text (List.append_assoc ..))
    rcases stands.complete (endsAfter gap _ rfl) with complete | ⟨unclosed, ended⟩
    · cases later with
      | last final => exact ⟨by simp [tokens], by simpa [tokens] using .inl complete⟩
      | next laterGap next others => exact Token.wellFormed_cons_cons.mpr ⟨complete, laterFormed⟩
    · cases later with
      | last final => exact ⟨by simp [tokens], by simpa [tokens] using .inr unclosed⟩
      | next laterGap next others =>
        obtain ⟨c, part, rfl, _⟩ := laterProper.2.1.begins
        simp [text] at ended

end Segmentation

/-- The tokens of a source are those of the segmentation of its trimmed text. A text has
one segmentation only, so any way to cut it will do. -/
theorem tokenize_of_proper {source : Text} {cut : Segmentation} (proper : cut.Proper)
    (whole : cut.text = Text.trim Text.isBlank source) :
    tokenize source = cut.tokens ∧
      (Lexer.ofText source).tokenize.2.warnings = cut.warnings := by
  have cutting : Token.tokenize (Text.trim Text.isBlank source) = (cut.tokens, cut.warnings) :=
    whole ▸ proper.tokenize
  exact ⟨congrArg Prod.fst cutting, congrArg Prod.snd cutting⟩

/-- The tokens of a source are well-formed. Trimming matters here: the last character of
what is cut is not blank. -/
theorem tokenize_wellFormed (source : Text) : Token.WellFormed (tokenize source) := by
  obtain ⟨cut, proper, whole⟩ := Segmentation.exists_proper (Text.trim Text.isBlank source)
  rw [(tokenize_of_proper proper whole).1]
  apply proper.wellFormed
  rw [whole]
  exact (Text.tight_trim source).last

/-- Well-formed tokens are read again when they are joined by spaces, and nothing is
dropped. -/
theorem Token.WellFormed.tokenize_joined {tokens : List Text} (formed : WellFormed tokens) :
    SpriteScript.tokenize (Text.joined " " tokens) = tokens ∧
      ∀ warning ∈ (Lexer.ofText (Text.joined " " tokens)).tokenize.2.warnings,
        warning.code ≠ .droppedCharacter := by
  have tight : Text.Tight (Text.joined " " tokens) := by
    apply Text.tight_joined
    intro token member
    exact (formed.each token member).elim Complete.tight Unclosed.tight
  have whole : (Segmentation.spaced [] tokens).text =
      Text.trim Text.isBlank (Text.joined " " tokens) := by
    rw [tight.trim]
    cases tokens with
    | nil => rfl
    | cons token rest => exact Segmentation.text_spaced [] token rest
  obtain ⟨cutting, warnings⟩ :=
    tokenize_of_proper (Segmentation.proper_spaced (.inl rfl) formed) whole
  refine ⟨cutting.trans (Segmentation.tokens_spaced [] tokens), ?_⟩
  rw [warnings, Segmentation.warnings, Segmentation.gapWarnings_spaced (.inl rfl), List.nil_append]
  intro warning reported
  obtain ⟨token, _, found⟩ := Option.bind_eq_some_iff.mp (Option.mem_toList.mp reported)
  unfold Segmentation.tokenWarning? at found
  split at found
  · cases found
    simp
  · cases found

/-- Complete tokens are read again when they are joined by spaces. They are well-formed in
every order, so lists of them can be put together freely. -/
theorem Token.tokenize_joined_of_complete {tokens : List Text}
    (complete : ∀ token ∈ tokens, Complete token) :
    SpriteScript.tokenize (Text.joined " " tokens) = tokens := by
  have formed : WellFormed tokens := by
    constructor
    · exact fun token member => complete token (List.dropLast_subset tokens member)
    · exact fun token last => .inl (complete token (List.mem_of_getLast? last))
  exact formed.tokenize_joined.1

/-- The token lists of sources are exactly the well-formed ones, and each of them is
read again from its tokens joined by spaces, without a dropped character. What a
source is cut into is therefore cut in the same way again. -/
theorem tokenize_inverts_joining :
    (∀ tokens : List Text, (∃ source, tokenize source = tokens) ↔ Token.WellFormed tokens) ∧
      (∀ tokens : List Text, Token.WellFormed tokens →
        tokenize (Text.joined " " tokens) = tokens ∧
          ∀ warning ∈ (Lexer.ofText (Text.joined " " tokens)).tokenize.2.warnings,
            warning.code ≠ .droppedCharacter) ∧
      ∀ source : Text, tokenize (Text.joined " " (tokenize source)) = tokenize source := by
  refine ⟨?_, ?_, ?_⟩
  · intro tokens
    constructor
    · rintro ⟨source, rfl⟩
      exact tokenize_wellFormed source
    · intro formed
      exact ⟨_, formed.tokenize_joined.1⟩
  · intro tokens formed
    exact formed.tokenize_joined
  · intro source
    exact (tokenize_wellFormed source).tokenize_joined.1

/-- A word, a number with two points and a string that is not closed. -/
theorem tokenize_inverts_joining_mixed :
    Token.WellFormed [("x" : Text), ("-5.2." : Text), ("'\"a" : Text)] ∧
      tokenize "x -5.2. '\"a" = [("x" : Text), ("-5.2." : Text), ("'\"a" : Text)] := by
  have word : Token.Complete ("x" : Text) := .word _ [] (by decide) (by simp)
  have number : Token.Complete ("-5.2." : Text) :=
    .number ['-'] _ _ (.inr rfl) (by decide) (by decide)
  have string : Token.Unclosed ("'\"a" : Text) :=
    .opened _ _ (by decide) (by decide) (by decide)
  have formed : Token.WellFormed [("x" : Text), ("-5.2." : Text), ("'\"a" : Text)] := by
    refine ⟨?_, ?_⟩
    · rintro token (_ | ⟨_, _ | ⟨_, ⟨⟩⟩⟩)
      · exact word
      · exact number
    · rintro token ⟨⟩
      exact .inr string
  exact ⟨formed, (tokenize_inverts_joining.2.1 _ formed).1⟩

end SpriteScript
