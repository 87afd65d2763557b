import SpriteScript.Proofs.Delimiters
import SpriteScript.Proofs.StringLiterals

/-!
# Quoted tokens as arguments and as initial values

A quoted token reaches the code in two ways. As an argument it is written as it stands. As
an initial value it first loses the quotes at its ends and is then written as a string
literal, with escapes. Escaping never puts a quote where there was none, so it cannot
bring back a quote that was dropped. The two ways therefore agree exactly if nothing is
dropped but the delimiters and nothing is escaped.
-/

namespace SpriteScript

namespace Json

open SpriteScript.Text

/-- A quote is only written for a quote. -/
theorem isQuote_of_mem_writtenPoint {c d : CodePoint} (member : d ∈ writtenPoint false c)
    (quote : Token.isQuote d = true) : Token.isQuote c = true := by
  have escaped := escaped_writtenPoint false c
  generalize writtenPoint false c = written at escaped member
  cases escaped with
  | @letter tag plain stands printed basic same =>
    have among : d = '\\' ∨ d = CodePoint.ofChar tag := by simpa using member
    rcases among with rfl | rfl
    · cases quote
    · rw [Token.isQuote, Bool.or_eq_true, beq_iff_eq, beq_iff_eq] at quote
      rcases quote with double | single
      · cases CodePoint.ofChar_inj double
        cases stands
        rw [(Token.eq_ofChar_iff c _).mpr same]
        rfl
      · cases CodePoint.ofChar_inj single
        cases stands
  | control below =>
    have apart : ∀ point ∈ unitEscape c.value, Token.isQuote point = false := by
      rw [unitEscape, List.forall_mem_append]
      exact ⟨by decide, hexDigits_each (by decide) 4 c.value⟩
    rw [apart d member] at quote
    cases quote
  | beyond restricted => cases restricted
  | plain => exact List.mem_singleton.mp member ▸ quote

/-- What is written for a text ends in a quote only if the text does. -/
theorem endsInQuote_of_writtenPoints {text : Text}
    (ends : EndsInQuote (text.flatMap (writtenPoint false))) : EndsInQuote text := by
  have present : ∀ c, writtenPoint false c ≠ [] := by
    intro c
    rcases (piece_writtenPoint c).single_or_long with ⟨single, _⟩ | long
    · simp [single]
    · exact List.ne_nil_of_length_pos (by omega)
  obtain ⟨d, begins | final, quote⟩ := ends
  · cases text with
    | nil => cases begins
    | cons c rest =>
      rw [List.flatMap_cons, List.head?_append_of_ne_nil _ (present c)] at begins
      exact ⟨c, .inl rfl, isQuote_of_mem_writtenPoint (List.mem_of_mem_head? begins) quote⟩
  · rcases List.eq_nil_or_concat text with rfl | ⟨front, c, rfl⟩
    · cases final
    · rw [List.concat_eq_append, List.flatMap_append, List.flatMap_singleton,
        List.getLast?_append_of_ne_nil _ (present c)] at final
      refine ⟨c, .inr ?_, isQuote_of_mem_writtenPoint (List.mem_of_getLast? final) quote⟩
      simp

end Json

namespace JavaScript

open SpriteScript.Text

/-- A quoted token is the literal of a text if its quotes are double and it has the written
characters of the text between them. -/
theorem token_eq_writtenText_iff (quoted : QuotedText) (text : Text) :
    quoted.token = Json.writtenText false text ↔
      quoted.quote = '"' ∧ quoted.inner = text.flatMap (Json.writtenPoint false) := by
  constructor
  · intro same
    obtain ⟨double, rest⟩ := List.cons.inj same
    refine ⟨double, ?_⟩
    rw [double] at rest
    exact List.append_cancel_right rest
  · rintro ⟨double, inner⟩
    rw [QuotedText.token, double, inner]
    rfl

/-- A text is what is written for it without the quotes at its ends exactly if nothing is
dropped and nothing is escaped. What is written ends in no quote, so dropping and escaping
cannot make up for each other. -/
theorem eq_written_unquoted_iff (text : Text) :
    text = (Literal.unquote text).flatMap (Json.writtenPoint false) ↔
      ¬ EndsInQuote text ∧ ∀ c ∈ text, c ≠ '"' ∧ c ≠ '\\' ∧ 0x20 ≤ c.value := by
  rw [← Json.writtenPoints_eq_self_iff]
  constructor
  · intro same
    have unended : ¬ EndsInQuote text := by
      rw [same]
      intro ends
      obtain ⟨first, last⟩ := Text.ends_trim Token.isQuote text
      obtain ⟨c, begins | final, quote⟩ := Json.endsInQuote_of_writtenPoints ends
      · rw [first c begins] at quote
        cases quote
      · rw [last c final] at quote
        cases quote
    rw [(Literal.unquote_eq_self_iff text).mpr unended] at same
    exact ⟨unended, same.symm⟩
  · rintro ⟨unended, same⟩
    rw [(Literal.unquote_eq_self_iff text).mpr unended, same]

/-- For a quoted token the code of the argument and that of the initial value agree exactly
if the quotes are double and no character between them is escaped or dropped: none is a
backslash or a control character, and none at the ends is a single quote. -/
theorem argument_agrees_with_value_iff (quoted : QuotedText) :
    Literal.argument quoted.token = .text quoted.token ∧
      ∃ given declared, argumentCode (.text quoted.token) = .ok given ∧
        valueCode (Literal.value quoted.token) = .ok declared ∧
        (given = declared ↔ quoted.quote = '"' ∧
          (∀ c ∈ quoted.inner, c ≠ '\\' ∧ 0x20 ≤ c.value) ∧
          quoted.inner.head? ≠ some ('\'' : CodePoint) ∧
          quoted.inner.getLast? ≠ some ('\'' : CodePoint)) := by
  have literal : Literal.argument quoted.token = .text quoted.token := by
    rw [Literal.argument, QuotedText.token, List.cons_append, Literal.number?_quote _ quoted.opens]
  refine ⟨literal, quoted.token, Json.writtenText false (Literal.unquote quoted.inner), rfl, ?_, ?_⟩
  · rw [Literal.value_quoted]
    rfl
  · rw [token_eq_writtenText_iff, eq_written_unquoted_iff]
    constructor
    · rintro ⟨double, unended, plain⟩
      refine ⟨double, fun c member => (plain c member).2, ?_, ?_⟩
      · exact fun begins => unended ⟨_, .inl begins, rfl⟩
      · exact fun final => unended ⟨_, .inr final, rfl⟩
    · rintro ⟨double, plain, begins, final⟩
      have unquoted : ∀ c ∈ quoted.inner, c ≠ '"' := by
        intro c member same
        exact quoted.inside (double ▸ same ▸ member)
      refine ⟨double, ?_, fun c member => ⟨unquoted c member, plain c member⟩⟩
      -- Between double quotes a quote at an end can only be a single one.
      have single : ∀ c ∈ quoted.inner, Token.isQuote c = true → c = '\'' := by
        intro c member quote
        rw [Token.isQuote, Bool.or_eq_true, beq_iff_eq, beq_iff_eq] at quote
        exact quote.resolve_left (unquoted c member)
      rintro ⟨c, first | last, quote⟩
      · exact begins (single c (List.mem_of_mem_head? first) quote ▸ first)
      · exact final (single c (List.mem_of_getLast? last) quote ▸ last)

end JavaScript

end SpriteScript
