import SpriteScript.Proofs.Relexing
import SpriteScript.Proofs.RoundTrip

/-!
# The text between quotes

A quoted token begins and ends with the same quote, and this quote stands nowhere
between them. Its value is what is left when quotes of either kind are dropped from
both ends. The delimiters are dropped in any case; a quote of the other kind next to one
of them is dropped with it. The value is therefore the text between the delimiters
exactly if that text neither begins nor ends with a quote.
-/

namespace SpriteScript

/-- A name as it is written: a letter, then letters, digits and underscores. A lexer takes
it as one word. -/
structure Identifier where
  first : CodePoint
  rest : Text
  letter : first.isLetter = true
  inside : ∀ point ∈ rest, Token.isWordPart point = true

/-- The characters of a name. -/
def Identifier.text (name : Identifier) : Text :=
  name.first :: name.rest

/-- A text that can stand between two quotes. The quote that delimits it does not occur in
it, but the other one may. -/
structure QuotedText where
  quote : CodePoint
  inner : Text
  opens : Token.isQuote quote = true
  inside : quote ∉ inner

/-- The text with its delimiters. -/
def QuotedText.token (quoted : QuotedText) : Text :=
  quoted.quote :: quoted.inner ++ [quoted.quote]

/-- A text that begins or ends with a quote, of either kind. -/
def EndsInQuote (text : Text) : Prop :=
  ∃ c, (text.head? = some c ∨ text.getLast? = some c) ∧ Token.isQuote c = true

/-- What is dropped may as well be dropped before. -/
theorem Text.trim_enclosed {drops : CodePoint → Bool} {first last : CodePoint} (text : Text)
    (opens : drops first = true) (closes : drops last = true) :
    trim drops (first :: text ++ [last]) = trim drops text := by
  rw [trim, trim, trimStart, List.cons_append, List.dropWhile_cons_of_pos opens,
    List.dropWhile_append]
  split
  · rename_i empty
    rw [List.dropWhile_cons_of_pos closes, trimStart, List.isEmpty_iff.mp empty]
    rfl
  · rw [trimEnd, List.reverse_append, List.reverse_singleton, List.singleton_append,
      List.dropWhile_cons_of_pos closes]
    rfl

namespace Literal

/-- Dropping quotes at the ends leaves a text as it is if it does not end in one, and only
then. -/
theorem unquote_eq_self_iff (text : Text) : unquote text = text ↔ ¬ EndsInQuote text := by
  rw [unquote, Text.trim_eq_self_iff]
  constructor
  · rintro ⟨first, last⟩ ⟨c, begins | ends, quote⟩
    · rw [first c begins] at quote
      cases quote
    · rw [last c ends] at quote
      cases quote
  · intro plain
    constructor
    · intro c begins
      by_contra quote
      exact plain ⟨c, .inl begins, by simpa using quote⟩
    · intro c ends
      by_contra quote
      exact plain ⟨c, .inr ends, by simpa using quote⟩

/-- No number begins with a quote. -/
theorem number?_quote {quote : CodePoint} (rest : Text) (opens : Token.isQuote quote = true) :
    number? (quote :: rest) = none := by
  rw [Token.isQuote, Bool.or_eq_true, beq_iff_eq, beq_iff_eq] at opens
  rcases opens with rfl | rfl <;> rfl

/-- The value of a quoted text is what is left without quotes at the ends. The delimiters
are dropped together with the quotes next to them. -/
theorem value_quoted (quoted : QuotedText) :
    value quoted.token = .text (.text (unquote quoted.inner)) := by
  rw [value, QuotedText.token, List.cons_append, number?_quote _ quoted.opens, ← List.cons_append,
    unquote, Text.trim_enclosed quoted.inner quoted.opens quoted.opens, unquote]

end Literal

/-- An identifier is a complete token, a word. -/
theorem Identifier.complete (name : Identifier) : Token.Complete name.text :=
  .word name.first name.rest name.letter name.inside

/-- A text between its quotes is a complete token, since the closing quote is there and not
inside. -/
theorem QuotedText.complete (quoted : QuotedText) : Token.Complete quoted.token :=
  .quoted quoted.quote quoted.inner quoted.opens quoted.inside

/-- The source of a variable declaration. -/
def scalarSource (name : Identifier) (quoted : QuotedText) : Text :=
  "var " ++ name.text ++ " = " ++ quoted.token

/-- The tokens of a list declaration. -/
def listTokens (name : Identifier) (elements : List Text) : List Text :=
  "list" :: name.text :: "[" :: (elements ++ [("]" : Text)])

/-- An equals sign begins no token. The lexer drops it, so a declaration with one has the
tokens of a declaration without. -/
theorem Token.skipped_equals (after : Text) : Skipped '=' after := by
  refine .inr ⟨rfl, rfl, rfl, rfl, ?_⟩
  rintro ⟨minus, _⟩
  exact absurd minus (by decide)

/-- The source of a declaration is cut into its three tokens. All of them are complete, so
the blanks between them are enough. -/
theorem tokenize_scalarSource (name : Identifier) (quoted : QuotedText) :
    tokenize (scalarSource name quoted) = [("var" : Text), name.text, quoted.token] := by
  have proper : (Segmentation.next [] "var"
      (.next " " name.text (.next " = " quoted.token (.last [])))).Proper := by
    refine ⟨trivial, ?_, ⟨.inl rfl, trivial⟩, ?_,
      ⟨.inl rfl, Token.skipped_equals _, .inl rfl, trivial⟩, ?_, trivial⟩
    · apply Token.Complete.stands (.word _ _ rfl (by decide))
      rintro point ⟨⟩
      rfl
    · apply name.complete.stands
      rintro point ⟨⟩
      rfl
    · exact quoted.complete.stands nofun
  have tight : Text.Tight (scalarSource name quoted) := by
    constructor
    · rintro c ⟨⟩
      rfl
    · intro c last
      obtain ⟨nonempty, ends⟩ := quoted.complete.tight
      rw [scalarSource, List.getLast?_append, List.getLast?_eq_some_getLast nonempty] at last
      exact ends.last c ((List.getLast?_eq_some_getLast nonempty).trans last)
  refine (tokenize_of_proper proper ?_).1
  rw [tight.trim, scalarSource]
  simp only [Segmentation.text, List.nil_append, List.append_nil, List.append_assoc]
  rfl

/-- The declaration of a quoted text enters the text without its delimiters and without the
quotes that stand next to them inside. -/
theorem parse_scalarSource (name : Identifier) (quoted : QuotedText) :
    parse (tokenize (scalarSource name quoted)) =
      ({} : Program).declareVariable name.text (.text (.text (Literal.unquote quoted.inner))) := by
  have marked : Literal.isQuoted quoted.token = true := quoted.opens
  rw [tokenize_scalarSource, ← Literal.value_quoted]
  exact Source.parse_printed [.scalar ⟨name.text, name.complete.tight.1, nofun⟩
    (.direct ⟨quoted.token, quoted.complete.tight.1, nofun⟩ (.inr marked))]

/-- A list declaration takes the values of its elements in order. A closing bracket among
them would end it. -/
theorem parse_listTokens (name : Identifier) {elements : List Text}
    (nonempty : ∀ element ∈ elements, element ≠ []) (inside : ("]" : Text) ∉ elements) :
    parse (listTokens name elements) =
      ({} : Program).declareList name.text (elements.map Literal.value) := by
  let values : List (Source.TokenBut [("]" : Text)]) :=
    elements.attach.map fun element =>
      ⟨element.1, nonempty element.1 element.2, fun excluded =>
        inside (List.mem_singleton.mp excluded ▸ element.2)⟩
  have read := Source.parse_printed [.list ⟨name.text, name.complete.tight.1, nofun⟩ (some values)]
  simpa [values, Source.print, Source.Item.print, Source.printValues, Source.between,
    Source.Item.item, Source.listed, listTokens, Program.addItem, Function.comp_def] using read

/-- A declared variable and each element of a declared list have the value of their
token, in order. For a quoted token this is the text between its delimiters exactly if
that text does not begin or end with a quote itself. -/
theorem declared_text_iff (name : Identifier) :
    (∀ quoted : QuotedText, parse (tokenize (scalarSource name quoted)) =
      ({} : Program).declareVariable name.text (Literal.value quoted.token)) ∧
    (∀ (source : Text) (elements : List Text), ("]" : Text) ∉ elements →
      tokenize source = listTokens name elements →
      parse (tokenize source) =
        ({} : Program).declareList name.text (elements.map Literal.value)) ∧
    ∀ quoted : QuotedText,
      Literal.value quoted.token = .text (.text (Literal.unquote quoted.inner)) ∧
      (Literal.value quoted.token = .text (.text quoted.inner) ↔ ¬ EndsInQuote quoted.inner) := by
  refine ⟨?_, ?_, ?_⟩
  · intro quoted
    rw [parse_scalarSource, Literal.value_quoted]
  · intro source elements inside tokens
    have nonempty : ∀ element ∈ elements, element ≠ [] := by
      intro element member
      have among : element ∈ tokenize source := by simp [tokens, listTokens, member]
      exact ((tokenize_wellFormed source).each element among).elim
        (fun complete => complete.tight.1) (fun unclosed => unclosed.tight.1)
    rw [tokens, parse_listTokens name nonempty inside]
  · intro quoted
    refine ⟨Literal.value_quoted quoted, ?_⟩
    rw [Literal.value_quoted, Value.text.injEq, Datum.text.injEq, Literal.unquote_eq_self_iff]

/-- The name of the declarations below. -/
def shortName : Identifier := ⟨'n', [], rfl, nofun⟩

/-- A list with an element that begins with a quote of the other kind, an empty text, a
number and a text with a space. -/
theorem declared_text_iff_mixed :
    tokenize "list n [ \"'a\" '' 12 \"b c\" ]" =
        listTokens shortName [("\"'a\"" : Text), ("''" : Text), ("12" : Text), ("\"b c\"" : Text)] ∧
      parse (tokenize "list n [ \"'a\" '' 12 \"b c\" ]") =
        ({} : Program).declareList "n"
          [.text (.text "a"), .text (.text []), Literal.value "12", .text (.text "b c")] := by
  have complete : ∀ token ∈ listTokens shortName
      [("\"'a\"" : Text), ("''" : Text), ("12" : Text), ("\"b c\"" : Text)], Token.Complete token := by
    simp only [listTokens, List.cons_append, List.nil_append, List.forall_mem_cons]
    exact ⟨.word _ _ rfl (by decide), shortName.complete, .bracket _ rfl,
      .quoted _ "'a" rfl (by decide), .quoted _ [] rfl (by decide),
      .number [] _ _ (.inl rfl) rfl (by decide), .quoted _ "b c" rfl (by decide), .bracket _ rfl,
      nofun⟩
  have tokens := Token.tokenize_joined_of_complete complete
  exact ⟨tokens, (declared_text_iff shortName).2.1 _ _ (by decide) tokens⟩

/-- A text between quotes of one kind loses those of the other kind at its ends, and is
then declared like a different text. -/
theorem declared_text_shortened :
    parse (tokenize "var n = \"'x'\"") ≠ ({} : Program).declareVariable "n" (.text (.text "'x'")) ∧
      parse (tokenize "var n = \"'x'\"") = parse (tokenize "var n = \"x\"") := by
  have nested := parse_scalarSource shortName ⟨'"', "'x'", rfl, by decide⟩
  have plain := parse_scalarSource shortName ⟨'"', "x", rfl, by decide⟩
  constructor
  · intro same
    have declared : [(("n" : Text), Value.text (.text "x"))] =
        [(("n" : Text), Value.text (.text "'x'"))] :=
      congrArg (·.variableTable.entries) (nested.symm.trans same)
    have shorter : ("x" : Text) = "'x'" := by simpa using declared
    exact absurd shorter (by decide)
  · exact nested.trans plain.symm

end SpriteScript
