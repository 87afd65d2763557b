import SpriteScript.Proofs.LongestNumeral

/-!
# Tokens that look like numbers

Two notions of a number meet in a source. The lexer takes a number by its first characters
and then any digits and points. What a token denotes is asked later, of the longest numeral
that it begins with, and numerals can have signs, exponents and digits that no token of a
number has.

On tokens of a source the two agree. A token begins with a numeral exactly if the lexer took
it as a number. Its numeral ends before a second point, and it has no exponent, because the
token has no letters. Brackets, words and strings stand for themselves, whatever they hold.
-/

namespace SpriteScript

namespace Token

/-- The token begins as a number does: with an ASCII digit, or with a minus and one. -/
def beginsNumber : Text → Bool
  | [] => false
  | c :: rest => c.isDigit || (c == '-' && startsWithDigit rest)

/-- A token that the lexer does not take as a number: a bracket, a word, or a string, closed
or not. -/
inductive Plain : Text → Prop where
  | bracket (c : CodePoint) (bracket : isBracket c = true) : Plain [c]
  | word (c : CodePoint) (part : Text) (letter : c.isLetter = true)
      (inside : ∀ point ∈ part, isWordPart point = true) : Plain (c :: part)
  | quoted (quote : CodePoint) (inner : Text) (opens : isQuote quote = true)
      (inside : quote ∉ inner) : Plain (quote :: inner ++ [quote])
  | unclosed (quote : CodePoint) (inner : Text) (opens : isQuote quote = true)
      (inside : quote ∉ inner) : Plain (quote :: inner)

/-- What counts of a token that is a number, in front of what is ignored: an optional minus,
digits, and the first point with the digits after it, if there is a point. What is ignored
begins with a second point. -/
inductive Counted : Text → Text → Prop where
  | whole (sign digits : Text) (signed : sign = [] ∨ sign = [('-' : CodePoint)])
      (present : digits ≠ []) (each : ∀ c ∈ digits, c.isDigit = true) :
      Counted (sign ++ digits) []
  | pointed (sign digits further ignored : Text) (signed : sign = [] ∨ sign = [('-' : CodePoint)])
      (present : digits ≠ []) (each : ∀ c ∈ digits, c.isDigit = true)
      (later : ∀ c ∈ further, c.isDigit = true)
      (second : ∀ c, ignored.head? = some c → c = '.')
      (rest : ∀ c ∈ ignored, isNumberPart c = true) :
      Counted (sign ++ (digits ++ ('.' : CodePoint) :: further)) ignored

/-- ASCII digits are decimal digits. -/
theorem decimalDigit_of_digit {c : CodePoint} (digit : c.isDigit = true) :
    Text.isDecimalDigit c = true := by
  simp only [CodePoint.isDigit, Bool.and_eq_true, decide_eq_true_eq] at digit
  simp [Text.isDecimalDigit, Text.digitValue?, Text.decimalDigits, digit]

/-- What may follow in a number and is no digit is a point. -/
theorem eq_point_of_numberPart {c : CodePoint} (part : isNumberPart c = true)
    (other : c.isDigit = false) : c = '.' := by
  simpa [isNumberPart, other] using part

/-- A number token is cut into what counts and what is ignored. -/
theorem exists_counted {sign part : Text} {c : CodePoint}
    (signed : sign = [] ∨ sign = [('-' : CodePoint)]) (digit : c.isDigit = true)
    (inside : ∀ point ∈ part, isNumberPart point = true) :
    ∃ front ignored, sign ++ c :: part = front ++ ignored ∧ Counted front ignored := by
  have taken : ∀ text : Text, ∀ point ∈ text.takeWhile CodePoint.isDigit, point.isDigit = true :=
    fun text point => List.mem_takeWhile_imp
  have each : ∀ point ∈ c :: part.takeWhile CodePoint.isDigit, point.isDigit = true :=
    List.forall_mem_cons.mpr ⟨digit, taken part⟩
  have parts := List.takeWhile_append_dropWhile (p := CodePoint.isDigit) (l := part)
  cases left : part.dropWhile CodePoint.isDigit with
  | nil =>
    rw [left, List.append_nil] at parts
    rw [parts] at each
    exact ⟨sign ++ c :: part, [], by simp, .whole sign _ signed (by simp) each⟩
  | cons point after =>
    rw [left] at parts
    have later : ∀ other ∈ point :: after, isNumberPart other = true := by
      intro other member
      exact inside other (by rw [← parts]; exact List.mem_append_right _ member)
    -- Only digits and points are inside, so digits end at a point.
    obtain rfl := eq_point_of_numberPart (later point List.mem_cons_self)
      (head_dropWhile part point (by rw [left]; rfl))
    have rest : ∀ other ∈ after.dropWhile CodePoint.isDigit, isNumberPart other = true :=
      fun other member => later other
        (List.mem_cons_of_mem _ ((List.dropWhile_suffix _).subset member))
    refine ⟨_, after.dropWhile CodePoint.isDigit, ?_,
      .pointed sign _ (after.takeWhile CodePoint.isDigit) _ signed (by simp) each (taken after)
        ?_ rest⟩
    · simp only [List.append_assoc, List.cons_append, List.takeWhile_append_dropWhile, parts]
    · intro other first
      exact eq_point_of_numberPart (rest other (List.mem_of_mem_head? first))
        (head_dropWhile after other first)

/-- Scanning a number token takes what counts and no more. The exponent is missing, since what
is ignored begins with a point. -/
theorem Counted.scan {front ignored : Text} (counted : Counted front ignored) :
    ∃ numeral, Decimal.Numeral.scan (front ++ ignored) = some (numeral, ignored) ∧
      numeral.exponentDigits = [] := by
  have signs : ∀ sign : Text, sign = [] ∨ sign = [('-' : CodePoint)] →
      ∃ negative, Decimal.SignText negative sign := by
    rintro sign (rfl | rfl)
    · exact ⟨false, .absent⟩
    · exact ⟨true, .minus⟩
  cases counted with
  | whole sign digits signed present each =>
    obtain ⟨negative, signed⟩ := signs sign signed
    have written : Decimal.Numeral.WrittenAs ⟨negative, digits, [], false, []⟩ (sign ++ digits) :=
      ⟨sign, digits, [], by simp, signed,
        .whole digits present fun c member => decimalDigit_of_digit (each c member), .absent⟩
    rw [List.append_nil]
    exact ⟨_, written.scan, rfl⟩
  | pointed sign digits further ignored signed present each later second rest =>
    obtain ⟨negative, signed⟩ := signs sign signed
    have before : Text.AllDigits digits := fun c member => decimalDigit_of_digit (each c member)
    have after : Text.AllDigits further := fun c member => decimalDigit_of_digit (later c member)
    have start := signed.scanSign_mantissa
      (.pointed digits further (.inl present) before after) ignored
    have middle : Decimal.scanMantissa? (Decimal.scanSign (sign ++
        ((digits ++ ('.' : CodePoint) :: further) ++ ignored))).2 =
        some ((digits, further), ignored) := by
      rw [start, List.append_assoc, List.cons_append]
      refine Decimal.scanMantissa?_pointed (.inl present) before after fun c first => ?_
      rw [second c first]
      rfl
    have unmarked : ∀ c, ignored.head? = some c → c ≠ 'e' ∧ c ≠ 'E' := by
      intro c first
      rw [second c first]
      decide
    rw [List.append_assoc, Decimal.Numeral.scan_eq middle, Decimal.scanExponent_absent unmarked]
    exact ⟨_, rfl, rfl⟩

/-- A bracket, a word or a string is told by its first character. -/
theorem Plain.begins {token : Text} (plain : Plain token) :
    ∃ c rest, token = c :: rest ∧
      (isBracket c = true ∨ c.isLetter = true ∨ isQuote c = true) := by
  cases plain with
  | bracket c bracket => exact ⟨c, [], rfl, .inl bracket⟩
  | word c part letter => exact ⟨c, part, rfl, .inr (.inl letter)⟩
  | quoted quote inner opens => exact ⟨quote, _, rfl, .inr (.inr opens)⟩
  | unclosed quote inner opens => exact ⟨quote, inner, rfl, .inr (.inr opens)⟩

/-- Such a character begins no numeral and stands before none. -/
theorem plain_only {c : CodePoint}
    (known : isBracket c = true ∨ c.isLetter = true ∨ isQuote c = true) :
    Text.isBlank c = false ∧ c.isDigit = false ∧ Text.isDecimalDigit c = false ∧
      c ≠ '+' ∧ c ≠ '-' ∧ c ≠ '.' := by
  -- All these characters are ASCII, where the digits of all scripts are the ASCII digits.
  have undigit : Text.isDecimalDigit c = false := by
    by_contra digit
    have range := Text.decimalDigit_range (by simpa using digit)
    simp only [isBracket, CodePoint.isLetter, isQuote, Bool.or_eq_true, Bool.and_eq_true,
      decide_eq_true_eq, beq_iff_eq, eq_ofChar_iff, Char.reduceToNat] at known
    omega
  simp only [isBracket, CodePoint.isLetter, isQuote, CodePoint.isDigit, Text.isBlank,
    Bool.or_eq_true, Bool.and_eq_true, decide_eq_true_eq, beq_iff_eq, Bool.or_eq_false_iff,
    Bool.and_eq_false_iff, decide_eq_false_iff_not, beq_eq_false_iff_ne, ne_eq, eq_ofChar_iff,
    Char.reduceToNat] at known ⊢
  exact ⟨by omega, by omega, undigit, by omega, by omega, by omega⟩

/-- No numeral stands at the front of a bracket, a word or a string. -/
theorem Plain.no_numeral {token : Text} (plain : Plain token) :
    ∀ front, front <+: Text.trimStart Text.isBlank token → ¬ Decimal.NumeralText front := by
  intro front leading numeral
  obtain ⟨c, rest, rfl, known⟩ := plain.begins
  obtain ⟨visible, _, undigit, notPlus, notMinus, notPoint⟩ := plain_only known
  rw [Text.trimStart, List.dropWhile_cons_of_neg (by simp [visible])] at leading
  obtain ⟨first, others, rfl, begins⟩ := numeral.begins
  obtain rfl := (List.cons_prefix_cons.mp leading).1
  simp [undigit, notPlus, notMinus, notPoint] at begins

/-- A bracket, a word or a string does not begin as a number does. -/
theorem Plain.not_beginsNumber {token : Text} (plain : Plain token) :
    beginsNumber token = false := by
  obtain ⟨c, rest, rfl, known⟩ := plain.begins
  obtain ⟨_, undigit, _, _, notMinus, _⟩ := plain_only known
  simp [beginsNumber, undigit, notMinus]

/-- A token of a source is a bracket, a word or a string, or it is a number: a part of it
counts, and the rest is ignored. -/
theorem plain_or_counted {source token : Text} (cut : token ∈ SpriteScript.tokenize source) :
    Plain token ∨ (beginsNumber token = true ∧
      ∃ front ignored, token = front ++ ignored ∧ Counted front ignored) := by
  rcases (tokenize_wellFormed source).each token cut with complete | unclosed
  · cases complete with
    | bracket c bracket => exact .inl (.bracket c bracket)
    | word c part letter inside => exact .inl (.word c part letter inside)
    | quoted quote inner opens inside => exact .inl (.quoted quote inner opens inside)
    | number sign c part signed digit inside =>
      refine .inr ⟨?_, exists_counted signed digit inside⟩
      rcases signed with rfl | rfl
      · simp [beginsNumber, digit]
      · simp [beginsNumber, startsWithDigit, digit]
  · obtain ⟨quote, inner, opens, inside⟩ := unclosed
    exact .inl (.unclosed quote inner opens inside)

/-- No blanks stand in front of a token. -/
theorem trimStart_token {source token : Text} (cut : token ∈ SpriteScript.tokenize source) :
    Text.trimStart Text.isBlank token = token := by
  obtain ⟨nonempty, tight⟩ :=
    ((tokenize_wellFormed source).each token cut).elim Complete.tight Unclosed.tight
  obtain ⟨c, rest, rfl⟩ := List.exists_cons_of_ne_nil nonempty
  rw [Text.trimStart, List.dropWhile_cons_of_neg (by simp [tight.first c rfl])]

end Token

/-- The tokens of a source that begin with a numeral are exactly those that the lexer takes
as numbers. Of these an optional minus, the first digits and the first point with the digits
after it are read, and never an exponent. All other tokens, which are the brackets, the words
and the strings, are kept as text. -/
theorem number_tokens_agree (source token : Text) (cut : token ∈ tokenize source) :
    ((∃ front, front <+: Text.trimStart Text.isBlank token ∧ Decimal.NumeralText front) ↔
        Token.beginsNumber token = true) ∧
      (Token.beginsNumber token = true →
        ∃ front ignored numeral number, token = front ++ ignored ∧ Token.Counted front ignored ∧
          Decimal.LongestNumeral (Text.trimStart Text.isBlank token) front ∧
          Decimal.Numeral.scan (Text.trimStart Text.isBlank token) = some (numeral, ignored) ∧
          numeral.WrittenAs front ∧ numeral.exponentDigits = [] ∧
          Decimal.read? front = some number ∧
          Literal.number? token = if Decimal.isFinite number then some number else none) ∧
      (Token.Plain token ↔ Token.beginsNumber token = false) ∧
      (Token.Plain token → Literal.number? token = none ∧ Literal.argument token = .text token ∧
        Literal.value token = .text (.text (Literal.unquote token))) := by
  rcases Token.plain_or_counted cut with plain | ⟨begins, front, ignored, parts, counted⟩
  · have missing := plain.no_numeral
    have unlike := plain.not_beginsNumber
    have numberless := Literal.number?_of_no_numeral missing
    refine ⟨?_, ?_, ⟨fun _ => unlike, fun _ => plain⟩,
      fun _ => ⟨numberless, Literal.kept_of_no_number numberless⟩⟩
    · constructor
      · rintro ⟨front, leading, numeral⟩
        exact absurd numeral (missing front leading)
      · intro begins
        rw [unlike] at begins
        cases begins
    · intro begins
      rw [unlike] at begins
      cases begins
  · have other : ¬ Token.Plain token := by
      intro plain
      rw [plain.not_beginsNumber] at begins
      cases begins
    obtain ⟨numeral, scanned, unmarked⟩ := counted.scan
    obtain ⟨written, longest⟩ := Decimal.Numeral.longest_of_scan_append scanned
    rw [← parts, ← Token.trimStart_token cut] at scanned longest
    obtain ⟨number, read, found⟩ := Literal.number?_of_longest longest
    refine ⟨⟨fun _ => begins, fun _ => ⟨front, longest.leading, longest.numeral⟩⟩, fun _ => ?_, ?_,
      fun plain => absurd plain other⟩
    · exact ⟨front, ignored, numeral, number, parts, counted, longest, scanned, written, unmarked,
        read, found⟩
    · rw [begins]
      exact ⟨fun plain => absurd plain other, nofun⟩

/-- Of a number with two points the second is ignored, and a string of a digit is no number. -/
theorem number_tokens_agree_mixed :
    ("-1.2.3" : Text) ∈ tokenize "'5' -1.2.3" ∧ Token.Counted "-1.2" ".3" ∧
      Decimal.LongestNumeral "-1.2.3" "-1.2" ∧
      ("'5'" : Text) ∈ tokenize "'5' -1.2.3" ∧ Literal.argument "'5'" = .text "'5'" := by
  have string : Token.Complete "'5'" := .quoted '\'' "5" (by decide) (by decide)
  have number : Token.Complete "-1.2.3" := .number ['-'] '1' ".2.3" (.inr rfl) rfl (by decide)
  have each : ∀ token ∈ [("'5'" : Text), ("-1.2.3" : Text)], Token.Complete token :=
    List.forall_mem_cons.mpr ⟨string, List.forall_mem_singleton.mpr number⟩
  have tokens : tokenize "'5' -1.2.3" = [("'5'" : Text), ("-1.2.3" : Text)] :=
    Token.tokenize_joined_of_complete each
  have second : ("-1.2.3" : Text) ∈ tokenize "'5' -1.2.3" := by simp [tokens]
  have first : ("'5'" : Text) ∈ tokenize "'5' -1.2.3" := by simp [tokens]
  obtain ⟨_, read, _, _⟩ := number_tokens_agree _ _ second
  obtain ⟨front, ignored, numeral, _, parts, counted, longest, scanned, _⟩ := read rfl
  obtain ⟨_, _, plain, kept⟩ := number_tokens_agree _ _ first
  cases scanned
  have same : ("-1.2" : Text) = front := List.append_cancel_right parts
  subst same
  exact ⟨second, counted, longest, first, (kept (plain.mpr rfl)).2.1⟩

end SpriteScript
