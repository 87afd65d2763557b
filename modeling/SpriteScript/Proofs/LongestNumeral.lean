import SpriteScript.Literal
import SpriteScript.Proofs.Relexing

/-!
# The longest numeral at the front of a token

What a numeral looks like is said here without scanning: a sign that may be missing,
digits with at most one point, and an exponent that may be missing. A text may begin with
several numerals, since most fronts of a numeral are numerals, too.

Scanning from left to right takes the longest of them. A part that can go on does go on:
digits are taken to their end, so is a point after digits, and an exponent is taken if it
is complete. No part that is taken too early can rule out a longer numeral, because the mark
of an exponent is neither a digit nor a point and a sign is none of these.
-/

namespace SpriteScript

namespace Text

/-- Where decimal digits lie: they are the ASCII digits or stand behind all other ASCII
characters, apart from the blanks. -/
theorem decimalDigit_range {c : CodePoint} (digit : isDecimalDigit c = true) :
    (0x30 ≤ c.value ∧ c.value ≤ 0x39) ∨ (0x660 ≤ c.value ∧ c.value < 0x1680) ∨
      (0x1680 < c.value ∧ c.value < 0x2000) ∨ 0x3000 < c.value := by
  have apart : ∀ range ∈ decimalDigits, (0x30 ≤ range.1 ∧ range.2 ≤ 0x39) ∨
      (0x660 ≤ range.1 ∧ range.2 < 0x1680) ∨ (0x1680 < range.1 ∧ range.2 < 0x2000) ∨
      0x3000 < range.1 := by
    decide
  rw [isDecimalDigit, digitValue?, Option.isSome_map] at digit
  obtain ⟨range, found⟩ := Option.isSome_iff_exists.mp digit
  have inside := List.find?_some found
  simp only [Bool.and_eq_true, decide_eq_true_eq] at inside
  have place := apart range (List.mem_of_find?_eq_some found)
  omega

/-- A text of decimal digits, of any scripts. The empty text is one: that a numeral has
digits at all is asked for where the numeral is put together. -/
def AllDigits (text : Text) : Prop :=
  ∀ c ∈ text, isDecimalDigit c = true

/-- A text in front of which digits end: it does not begin with one. This is what makes the
scanning of digits in front of it exact. -/
def EndsDigits (after : Text) : Prop :=
  ∀ c, after.head? = some c → isDecimalDigit c = false

end Text

namespace Decimal

open SpriteScript.Text

/-- An optional sign; the flag is set for a minus. A plus and no sign at all are told apart
in the text only, not by the flag. -/
inductive SignText : Bool → Text → Prop where
  | absent : SignText false []
  | plus : SignText false [('+' : CodePoint)]
  | minus : SignText true [('-' : CodePoint)]

/-- The whole digits and the fraction digits of a text: digits without a point, or digits
before or after a point or on both of its sides. -/
inductive MantissaText : Text → Text → Text → Prop where
  | whole (digits : Text) (present : digits ≠ []) (each : AllDigits digits) :
      MantissaText digits [] digits
  | pointed (whole fraction : Text) (present : whole ≠ [] ∨ fraction ≠ [])
      (before : AllDigits whole) (after : AllDigits fraction) :
      MantissaText whole fraction (whole ++ ('.' : CodePoint) :: fraction)

/-- An optional exponent: a mark, an optional sign and at least one digit. A mark without
digits behind it is no exponent, so it is left behind the numeral. -/
inductive ExponentText : Bool → Text → Text → Prop where
  | absent : ExponentText false [] []
  | marked (mark : CodePoint) (negative : Bool) (sign digits : Text)
      (marks : mark = 'e' ∨ mark = 'E') (signed : SignText negative sign)
      (present : digits ≠ []) (each : AllDigits digits) :
      ExponentText negative digits (mark :: (sign ++ digits))

/-- The numeral is written as the text. Its parts stand in the order in which they are
scanned, but nothing here says how far scanning goes. -/
def Numeral.WrittenAs (numeral : Numeral) (text : Text) : Prop :=
  ∃ sign mantissa exponent, text = sign ++ (mantissa ++ exponent) ∧
    SignText numeral.negative sign ∧
    MantissaText numeral.whole numeral.fraction mantissa ∧
    ExponentText numeral.exponentNegative numeral.exponentDigits exponent

/-- The text is a numeral, as a whole. No reference to the scanner is made, so what the
scanner takes can be measured against this. -/
def NumeralText (text : Text) : Prop :=
  ∃ numeral : Numeral, numeral.WrittenAs text

/-- The longest numeral that a text begins with. There is at most one, as two fronts of a
text of the same length are the same. -/
structure LongestNumeral (text front : Text) : Prop where
  leading : front <+: text
  numeral : NumeralText front
  longest : ∀ other, other <+: text → NumeralText other → other.length ≤ front.length

/-- A digit is no sign. So the sign in front of digits is the whole sign, and digits
without one are not taken for it. -/
theorem digit_unsigned {c : CodePoint} (digit : isDecimalDigit c = true) : c ≠ '+' ∧ c ≠ '-' := by
  have range := decimalDigit_range digit
  simp only [ne_eq, Token.eq_ofChar_iff, Char.reduceToNat]
  omega

/-- The digits at the front of a text are all digits. -/
theorem allDigits_takeWhile (text : Text) : AllDigits (text.takeWhile isDecimalDigit) :=
  fun _ => List.mem_takeWhile_imp

/-- What is left after digits does not go on with one. Digits that are taken to their end
are thus ended by what is left. -/
theorem endsDigits_dropWhile (text : Text) : EndsDigits (text.dropWhile isDecimalDigit) :=
  Token.head_dropWhile text

/-- A mark that is no digit ends the digits before it. -/
theorem endsDigits_mark {mark : CodePoint} (rest : Text) (other : isDecimalDigit mark = false) :
    EndsDigits (mark :: rest) := by
  rintro c ⟨⟩
  exact other

/-- More digits in front of those that a text begins with are digits, too. A numeral that
stops inside of digits goes on to the end of them. -/
theorem digits_append_takeWhile {digits : Text} (each : AllDigits digits) (text : Text) :
    AllDigits (digits ++ text.takeWhile isDecimalDigit) := by
  rw [AllDigits, List.forall_mem_append]
  exact ⟨each, allDigits_takeWhile text⟩

/-- Scanning takes exactly the digits in front of what ends them. -/
theorem scanDigits_of_ended {digits after : Text} (each : AllDigits digits)
    (ended : EndsDigits after) : scanDigits (digits ++ after) = (digits, after) := by
  obtain ⟨taken, left⟩ := Token.takeWhile_ended each ended
  rw [scanDigits, taken, left]

/-- A sign is taken if another does not follow it. The condition is needed for a missing
sign only. -/
theorem SignText.scanSign {negative : Bool} {sign after : Text} (signed : SignText negative sign)
    (unsigned : ∀ c, after.head? = some c → c ≠ '+' ∧ c ≠ '-') :
    scanSign (sign ++ after) = (negative, after) := by
  cases signed with
  | plus => rfl
  | minus => rfl
  | absent =>
    cases after with
    | nil => rfl
    | cons c rest => simp [Decimal.scanSign, unsigned c rfl]

/-- Every text begins with an optional sign. -/
theorem exists_sign (text : Text) :
    ∃ sign, SignText (scanSign text).1 sign ∧ text = sign ++ (scanSign text).2 := by
  cases text with
  | nil => exact ⟨[], .absent, rfl⟩
  | cons c rest =>
    by_cases plus : c = '+'
    · subst plus
      exact ⟨_, .plus, rfl⟩
    · by_cases minus : c = '-'
      · subst minus
        exact ⟨_, .minus, rfl⟩
      · simp only [scanSign, beq_iff_eq, plus, minus, if_false]
        exact ⟨[], .absent, rfl⟩

/-- Digits without a point are taken to their end. -/
theorem scanMantissa?_whole {digits after : Text} (present : digits ≠ []) (each : AllDigits digits)
    (ended : EndsDigits after) (pointless : after.head? ≠ some ('.' : CodePoint)) :
    scanMantissa? (digits ++ after) = some ((digits, []), after) := by
  have none : scanFraction? after = none := by
    cases after with
    | nil => rfl
    | cons c rest => simpa [scanFraction?] using pointless
  simp [scanMantissa?, scanDigits_of_ended each ended, none, present]

/-- Digits with a point are taken to the end of those after the point. -/
theorem scanMantissa?_pointed {whole fraction after : Text} (present : whole ≠ [] ∨ fraction ≠ [])
    (before : AllDigits whole) (later : AllDigits fraction) (ended : EndsDigits after) :
    scanMantissa? (whole ++ ('.' : CodePoint) :: (fraction ++ after)) =
      some ((whole, fraction), after) := by
  have point : EndsDigits ('.' :: (fraction ++ after)) := endsDigits_mark _ rfl
  have found : scanFraction? ('.' :: (fraction ++ after)) = some (fraction, after) := by
    simp [scanFraction?, scanDigits_of_ended later ended]
  have some : ¬ (whole = [] ∧ fraction = []) := by
    rintro ⟨rfl, rfl⟩
    simp at present
  simp [scanMantissa?, scanDigits_of_ended before point, found, some]

/-- A fraction is what follows a point. -/
theorem eq_of_scanFraction? {text fraction rest : Text}
    (taken : scanFraction? text = some (fraction, rest)) :
    text = ('.' : CodePoint) :: (fraction ++ rest) ∧ AllDigits fraction := by
  cases text with
  | nil => cases taken
  | cons c after =>
    simp only [scanFraction?, beq_iff_eq, Option.ite_none_right_eq_some, Option.some.injEq,
      scanDigits, Prod.mk.injEq] at taken
    obtain ⟨rfl, rfl, rfl⟩ := taken
    exact ⟨by rw [List.takeWhile_append_dropWhile], allDigits_takeWhile after⟩

/-- What is taken as the digits of a numeral are such digits. The fraction is there exactly
if a point follows the digits before it. -/
theorem exists_mantissa {text whole fraction rest : Text}
    (taken : scanMantissa? text = some ((whole, fraction), rest)) :
    ∃ mantissa, MantissaText whole fraction mantissa ∧ text = mantissa ++ rest := by
  have parts := List.takeWhile_append_dropWhile (p := isDecimalDigit) (l := text)
  have each := allDigits_takeWhile text
  simp only [scanMantissa?, scanDigits] at taken
  split at taken
  · rename_i found
    obtain ⟨pointed, later⟩ := eq_of_scanFraction? found
    obtain ⟨present, ⟨rfl, rfl⟩, rfl⟩ : _ ∧ (_ ∧ _) ∧ _ := by simpa using taken
    refine ⟨_, .pointed _ _ ?_ each later, ?_⟩
    · simpa [or_iff_not_imp_left] using present
    · rw [List.append_assoc, List.cons_append, ← pointed, parts]
  · obtain ⟨present, ⟨rfl, rfl⟩, rfl⟩ : _ ∧ (_ ∧ _) ∧ _ := by simpa using taken
    exact ⟨_, .whole _ (by simpa using present) each, parts.symm⟩

/-- An exponent is taken if it is complete, to the end of its digits. -/
theorem scanExponent_marked {mark : CodePoint} {negative : Bool} {sign digits after : Text}
    (marks : mark = 'e' ∨ mark = 'E') (signed : SignText negative sign) (present : digits ≠ [])
    (each : AllDigits digits) (ended : EndsDigits after) :
    scanExponent (mark :: (sign ++ (digits ++ after))) = ((negative, digits), after) := by
  have unsigned : ∀ c, (digits ++ after).head? = some c → c ≠ '+' ∧ c ≠ '-' := by
    obtain ⟨first, others, rfl⟩ := List.exists_cons_of_ne_nil present
    rintro c ⟨⟩
    exact digit_unsigned (each first List.mem_cons_self)
  simp [scanExponent, marks, signed.scanSign unsigned, scanDigits_of_ended each ended, present]

/-- Where no mark stands there is no exponent, and nothing of the text is taken. -/
theorem scanExponent_absent {text : Text}
    (unmarked : ∀ c, text.head? = some c → c ≠ 'e' ∧ c ≠ 'E') :
    scanExponent text = ((false, []), text) := by
  cases text with
  | nil => rfl
  | cons c rest => simp [scanExponent, unmarked c rfl]

/-- Every text begins with an optional exponent. A mark that no digits follow is not taken,
and the sign behind it is left with it. -/
theorem exists_exponent (text : Text) :
    ∃ exponent, ExponentText (scanExponent text).1.1 (scanExponent text).1.2 exponent ∧
      text = exponent ++ (scanExponent text).2 := by
  cases text with
  | nil => exact ⟨[], .absent, rfl⟩
  | cons mark rest =>
    obtain ⟨sign, signed, parts⟩ := exists_sign rest
    have each := allDigits_takeWhile (scanSign rest).2
    by_cases marks : mark = 'e' ∨ mark = 'E'
    · by_cases missing : (scanSign rest).2.takeWhile isDecimalDigit = []
      · have incomplete : scanExponent (mark :: rest) = ((false, []), mark :: rest) := by
          rw [scanExponent]
          simp only [scanDigits, missing, List.isEmpty_nil, if_true, ite_self]
        rw [incomplete]
        exact ⟨[], .absent, rfl⟩
      · have taken := scanExponent_marked marks signed missing each
          (endsDigits_dropWhile (scanSign rest).2)
        rw [List.takeWhile_append_dropWhile, ← parts] at taken
        rw [taken]
        refine ⟨_, .marked mark _ sign _ marks signed missing each, ?_⟩
        rw [List.cons_append, List.append_assoc, List.takeWhile_append_dropWhile, ← parts]
    · have unmarked : ∀ c, (mark :: rest).head? = some c → c ≠ 'e' ∧ c ≠ 'E' := by
        rintro c ⟨⟩
        exact not_or.mp marks
      rw [scanExponent_absent unmarked]
      exact ⟨[], .absent, rfl⟩

/-- A mantissa begins with a digit or a point, so with no sign and no mark of an exponent.
-/
theorem MantissaText.begins {whole fraction mantissa : Text}
    (written : MantissaText whole fraction mantissa) :
    ∃ c rest, mantissa = c :: rest ∧ (isDecimalDigit c = true ∨ c = '.') := by
  cases written with
  | whole present each =>
    obtain ⟨c, rest, rfl⟩ := List.exists_cons_of_ne_nil present
    exact ⟨c, rest, rfl, .inl (each c List.mem_cons_self)⟩
  | pointed _ present before =>
    cases whole with
    | nil => exact ⟨'.', fraction, rfl, .inr rfl⟩
    | cons c rest => exact ⟨c, _, rfl, .inl (before c List.mem_cons_self)⟩

/-- A numeral begins with a digit, a sign or a point. -/
theorem NumeralText.begins {text : Text} (numeral : NumeralText text) :
    ∃ c rest, text = c :: rest ∧ (isDecimalDigit c = true ∨ c = '+' ∨ c = '-' ∨ c = '.') := by
  obtain ⟨⟨negative, _, _, _, _⟩, sign, mantissa, exponent, rfl, signed, digits, _⟩ := numeral
  cases signed with
  | plus => exact ⟨'+', mantissa ++ exponent, rfl, .inr (.inl rfl)⟩
  | minus => exact ⟨'-', mantissa ++ exponent, rfl, .inr (.inr (.inl rfl))⟩
  | absent =>
    obtain ⟨c, rest, rfl, first⟩ := digits.begins
    exact ⟨c, rest ++ exponent, rfl, first.imp_right fun point => .inr (.inr point)⟩

/-- The sign of a numeral is taken before its mantissa, since a mantissa does not begin
with a sign. -/
theorem SignText.scanSign_mantissa {negative : Bool} {sign whole fraction mantissa : Text}
    (signed : SignText negative sign) (written : MantissaText whole fraction mantissa)
    (after : Text) :
    Decimal.scanSign (sign ++ (mantissa ++ after)) = (negative, mantissa ++ after) := by
  apply signed.scanSign
  obtain ⟨c, rest, rfl, begins⟩ := written.begins
  rintro _ ⟨⟩
  rcases begins with digit | rfl
  · exact digit_unsigned digit
  · decide

/-- A mantissa is taken as it is written if what follows neither continues its digits nor is
a point. -/
theorem MantissaText.scanMantissa? {whole fraction mantissa after : Text}
    (written : MantissaText whole fraction mantissa) (ended : EndsDigits after)
    (pointless : after.head? ≠ some ('.' : CodePoint)) :
    Decimal.scanMantissa? (mantissa ++ after) = some ((whole, fraction), after) := by
  cases written with
  | whole present each => exact scanMantissa?_whole present each ended pointless
  | pointed _ present before later =>
    rw [List.append_assoc, List.cons_append]
    exact scanMantissa?_pointed present before later ended

/-- At least a mantissa is taken where one stands, as what is left is an end of what
follows it. More is taken if its digits go on, or if it has no point and one follows. -/
theorem MantissaText.reaches {whole fraction mantissa : Text}
    (written : MantissaText whole fraction mantissa) (after : Text) :
    ∃ parts rest, Decimal.scanMantissa? (mantissa ++ after) = some (parts, rest) ∧
      rest <:+ after := by
  have split := List.takeWhile_append_dropWhile (p := isDecimalDigit) (l := after)
  have suffix : after.dropWhile isDecimalDigit <:+ after := List.dropWhile_suffix _
  have ended := endsDigits_dropWhile after
  cases written with
  | whole present each =>
    have longer := digits_append_takeWhile each after
    have filled : whole ++ after.takeWhile isDecimalDigit ≠ [] := by simp [present]
    have regroup : whole ++ after =
        (whole ++ after.takeWhile isDecimalDigit) ++ after.dropWhile isDecimalDigit := by
      rw [List.append_assoc, split]
    rw [regroup]
    -- The digits may go on, and then there may be a point.
    by_cases point : (after.dropWhile isDecimalDigit).head? = some ('.' : CodePoint)
    · obtain ⟨rest, left⟩ := List.head?_eq_some_iff.mp point
      have further := allDigits_takeWhile rest
      have taken := scanMantissa?_pointed (.inl filled) longer further (endsDigits_dropWhile rest)
      rw [List.takeWhile_append_dropWhile, ← left] at taken
      have later : rest.dropWhile isDecimalDigit <:+ rest := List.dropWhile_suffix _
      rw [left] at suffix
      exact ⟨_, _, taken, later.trans ((List.suffix_cons _ _).trans suffix)⟩
    · exact ⟨_, _, scanMantissa?_whole filled longer ended point, suffix⟩
  | pointed _ present before later =>
    have longer := digits_append_takeWhile later after
    have filled : whole ≠ [] ∨ fraction ++ after.takeWhile isDecimalDigit ≠ [] :=
      present.imp_right fun nonempty => by simp [nonempty]
    have taken := scanMantissa?_pointed filled before longer ended
    rw [List.append_assoc fraction, split] at taken
    rw [List.append_assoc, List.cons_append]
    exact ⟨_, _, taken, suffix⟩

/-- At least an exponent is taken where one stands. If none stands there, what follows may
still begin with one. -/
theorem ExponentText.reaches {negative : Bool} {digits exponent : Text}
    (written : ExponentText negative digits exponent) (after : Text) :
    (scanExponent (exponent ++ after)).2 <:+ after := by
  cases written with
  | absent =>
    obtain ⟨exponent, _, parts⟩ := exists_exponent after
    exact ⟨exponent, parts.symm⟩
  | marked mark _ sign _ marks signed present each =>
    have longer := digits_append_takeWhile each after
    have filled : digits ++ after.takeWhile isDecimalDigit ≠ [] := by simp [present]
    have taken := scanExponent_marked marks signed filled longer (endsDigits_dropWhile after)
    rw [List.append_assoc, List.takeWhile_append_dropWhile] at taken
    rw [List.cons_append, List.append_assoc, taken]
    exact List.dropWhile_suffix _

/-- An exponent at the end of a text is taken as it is written. -/
theorem ExponentText.scanExponent {negative : Bool} {digits exponent : Text}
    (written : ExponentText negative digits exponent) :
    scanExponent exponent = ((negative, digits), []) := by
  cases written with
  | absent => rfl
  | marked mark _ sign _ marks signed present each =>
    have taken := @scanExponent_marked _ _ _ _ [] marks signed present each nofun
    rwa [List.append_nil] at taken

/-- In front of an exponent a mantissa ends: a mark is neither a digit nor a point. This is
why a mantissa before an exponent cannot be taken too long. -/
theorem ExponentText.ends_mantissa {negative : Bool} {digits exponent : Text}
    (written : ExponentText negative digits exponent) (present : exponent ≠ []) (after : Text) :
    EndsDigits (exponent ++ after) ∧ (exponent ++ after).head? ≠ some ('.' : CodePoint) := by
  cases written with
  | absent => exact absurd rfl present
  | marked mark _ sign _ marks =>
    rcases marks with rfl | rfl
    · exact ⟨endsDigits_mark _ rfl, show some ('e' : CodePoint) ≠ some '.' by decide⟩
    · exact ⟨endsDigits_mark _ rfl, show some ('E' : CodePoint) ≠ some '.' by decide⟩

namespace Numeral

/-- Scanning takes the sign, then the mantissa, then the exponent. Only a missing mantissa
makes it fail. -/
theorem scan_eq {text whole fraction rest : Text}
    (mantissa : scanMantissa? (scanSign text).2 = some ((whole, fraction), rest)) :
    scan text = some (⟨(scanSign text).1, whole, fraction, (scanExponent rest).1.1,
      (scanExponent rest).1.2⟩, (scanExponent rest).2) := by
  simp [scan, mantissa]

/-- What is taken is a numeral, and the text goes on behind it. Each part of it is the one
that its own scanner took. -/
theorem writtenAs_of_scan {text rest : Text} {numeral : Numeral}
    (taken : scan text = some (numeral, rest)) :
    ∃ front, numeral.WrittenAs front ∧ text = front ++ rest := by
  cases found : scanMantissa? (scanSign text).2 with
  | none => simp [scan, found] at taken
  | some result =>
    obtain ⟨⟨whole, fraction⟩, after⟩ := result
    rw [scan_eq found] at taken
    cases taken
    obtain ⟨sign, signed, text_eq⟩ := exists_sign text
    obtain ⟨mantissa, written, sign_eq⟩ := exists_mantissa found
    obtain ⟨exponent, marked, after_eq⟩ := exists_exponent after
    refine ⟨_, ⟨sign, mantissa, exponent, rfl, signed, written, marked⟩, ?_⟩
    rw [List.append_assoc, List.append_assoc, ← after_eq, ← sign_eq, ← text_eq]

/-- A numeral that is the whole text is taken as it is written: no other numeral is the
same text. -/
theorem WrittenAs.scan {numeral : Numeral} {text : Text} (written : numeral.WrittenAs text) :
    scan text = some (numeral, []) := by
  obtain ⟨sign, mantissa, exponent, rfl, signed, digits, marked⟩ := written
  have start := signed.scanSign_mantissa digits exponent
  have middle : scanMantissa? (scanSign (sign ++ (mantissa ++ exponent))).2 =
      some ((numeral.whole, numeral.fraction), exponent) := by
    rw [start]
    by_cases missing : exponent = []
    · subst missing
      exact digits.scanMantissa? nofun nofun
    · obtain ⟨ended, pointless⟩ := marked.ends_mantissa missing []
      rw [List.append_nil] at ended pointless
      exact digits.scanMantissa? ended pointless
  rw [scan_eq middle, start, marked.scanExponent]

/-- At least a numeral is taken where one stands. If it has an exponent, its mantissa cannot
go on; otherwise the mantissa may go on, and an exponent may follow. -/
theorem WrittenAs.reaches {numeral : Numeral} {front : Text} (written : numeral.WrittenAs front)
    (after : Text) :
    ∃ other rest, Numeral.scan (front ++ after) = some (other, rest) ∧ rest <:+ after := by
  obtain ⟨sign, mantissa, exponent, rfl, signed, digits, marked⟩ := written
  have start := signed.scanSign_mantissa digits (exponent ++ after)
  rw [List.append_assoc, List.append_assoc]
  by_cases missing : exponent = []
  · subst missing
    obtain ⟨⟨whole, fraction⟩, rest, taken, suffix⟩ := digits.reaches after
    have middle : scanMantissa? (scanSign (sign ++ (mantissa ++ ([] ++ after)))).2 =
        some ((whole, fraction), rest) := by
      rw [start]
      exact taken
    have further : (scanExponent rest).2 <:+ rest := ExponentText.absent.reaches rest
    exact ⟨_, _, scan_eq middle, further.trans suffix⟩
  · obtain ⟨ended, pointless⟩ := marked.ends_mantissa missing after
    have middle : scanMantissa? (scanSign (sign ++ (mantissa ++ (exponent ++ after)))).2 =
        some ((numeral.whole, numeral.fraction), exponent ++ after) := by
      rw [start]
      exact digits.scanMantissa? ended pointless
    exact ⟨_, _, scan_eq middle, marked.reaches after⟩

/-- Scanning fails exactly where no numeral begins. One way is that at least a numeral is
taken where one stands, the other that only numerals are taken. -/
theorem scan_eq_none_iff (text : Text) :
    scan text = none ↔ ∀ front, front <+: text → ¬ NumeralText front := by
  constructor
  · rintro failed front ⟨after, rfl⟩ ⟨numeral, written⟩
    obtain ⟨other, rest, taken, _⟩ := written.reaches after
    rw [failed] at taken
    cases taken
  · intro missing
    by_contra taken
    obtain ⟨⟨numeral, rest⟩, taken⟩ := Option.ne_none_iff_exists'.mp taken
    obtain ⟨front, written, parts⟩ := writtenAs_of_scan taken
    exact missing front ⟨rest, parts.symm⟩ ⟨numeral, written⟩

/-- Scanning takes the longest numeral. Any other that the text begins with is reached by
the same scan, so it ends no later than the one that is taken. -/
theorem longest_of_scan {text rest : Text} {numeral : Numeral}
    (taken : scan text = some (numeral, rest)) :
    ∃ front, text = front ++ rest ∧ numeral.WrittenAs front ∧ LongestNumeral text front := by
  obtain ⟨front, written, parts⟩ := writtenAs_of_scan taken
  refine ⟨front, parts, written, ⟨rest, parts.symm⟩, ⟨numeral, written⟩, ?_⟩
  -- Scanning leaves an end of what follows the other numeral, so the other ends no later.
  rintro other ⟨after, whole⟩ ⟨spelled, otherWritten⟩
  obtain ⟨again, left, retaken, suffix⟩ := otherWritten.reaches after
  rw [whole, taken] at retaken
  cases retaken
  have lengths := congrArg List.length (whole.trans parts)
  have shorter := suffix.length_le
  simp only [List.length_append] at lengths
  omega

/-- A front behind which scanning stops is the longest numeral. For a given text this is
settled by running the scanner. -/
theorem longest_of_scan_append {front rest : Text} {numeral : Numeral}
    (taken : scan (front ++ rest) = some (numeral, rest)) :
    numeral.WrittenAs front ∧ LongestNumeral (front ++ rest) front := by
  obtain ⟨other, parts, written, longest⟩ := longest_of_scan taken
  cases List.append_cancel_right parts
  exact ⟨written, longest⟩

/-- The longest numeral is the one that scanning takes, so its parts and what follows it
are known as well. -/
theorem scan_of_longest {text front : Text} (longest : LongestNumeral text front) :
    ∃ numeral rest, scan text = some (numeral, rest) ∧ text = front ++ rest ∧
      numeral.WrittenAs front := by
  cases scanned : scan text with
  | none => exact absurd longest.numeral ((scan_eq_none_iff text).mp scanned front longest.leading)
  | some result =>
    obtain ⟨numeral, rest⟩ := result
    obtain ⟨other, parts, written, otherLongest⟩ := longest_of_scan scanned
    have above := longest.longest other otherLongest.leading otherLongest.numeral
    have below := otherLongest.longest front longest.leading longest.numeral
    have leads := List.prefix_of_prefix_length_le longest.leading otherLongest.leading below
    obtain rfl := leads.eq_of_length_le above
    exact ⟨numeral, rest, rfl, parts, written⟩

end Numeral

/-- The characters of numerals: digits, signs, points and marks of an exponent. No blank
and no low line is one of them. -/
def NumeralPoint (c : CodePoint) : Prop :=
  isDecimalDigit c = true ∨ c = '+' ∨ c = '-' ∨ c = '.' ∨ c = 'e' ∨ c = 'E'

/-- Such a character neither surrounds a number nor groups digits. What the reader of
numbers drops around and inside a text is therefore no part of a numeral. -/
theorem NumeralPoint.visible {c : CodePoint} (point : NumeralPoint c) :
    surroundsNumber c = false ∧ c ≠ '_' := by
  rcases point with digit | rfl | rfl | rfl | rfl | rfl
  · have range := decimalDigit_range digit
    simp only [surroundsNumber, isBlank, ne_eq, Token.eq_ofChar_iff, Char.reduceToNat,
      Bool.and_eq_false_iff, Bool.or_eq_false_iff, decide_eq_false_iff_not, beq_eq_false_iff_ne]
    omega
  all_goals decide

/-- A sign consists of characters of numerals, or of none. -/
theorem SignText.points {negative : Bool} {sign : Text} (signed : SignText negative sign) :
    ∀ c ∈ sign, NumeralPoint c := by
  cases signed with
  | absent => exact List.forall_mem_nil _
  | plus => exact List.forall_mem_singleton.mpr (.inr (.inl rfl))
  | minus => exact List.forall_mem_singleton.mpr (.inr (.inr (.inl rfl)))

/-- A mantissa consists of characters of numerals: digits and at most one point. -/
theorem MantissaText.points {whole fraction mantissa : Text}
    (written : MantissaText whole fraction mantissa) : ∀ c ∈ mantissa, NumeralPoint c := by
  cases written with
  | whole present each => exact fun c member => .inl (each c member)
  | pointed _ present before later =>
    rw [List.forall_mem_append, List.forall_mem_cons]
    exact ⟨fun c member => .inl (before c member), .inr (.inr (.inr (.inl rfl))),
      fun c member => .inl (later c member)⟩

/-- An exponent consists of characters of numerals: its mark, a sign and digits. -/
theorem ExponentText.points {negative : Bool} {digits exponent : Text}
    (written : ExponentText negative digits exponent) : ∀ c ∈ exponent, NumeralPoint c := by
  cases written with
  | absent => exact List.forall_mem_nil _
  | marked mark _ sign _ marks signed present each =>
    rw [List.forall_mem_cons, List.forall_mem_append]
    exact ⟨.inr (.inr (.inr (.inr marks))), signed.points, fun c member => .inl (each c member)⟩

/-- Without groups the digits are left as they are. -/
theorem joinDigitGroups_of_plain {text : Text} (plain : ∀ c ∈ text, c ≠ '_') (afterDigit : Bool) :
    joinDigitGroups afterDigit text = some text := by
  induction text generalizing afterDigit with
  | nil => rfl
  | cons c rest inductionHypothesis =>
    obtain ⟨here, later⟩ := List.forall_mem_cons.mp plain
    simp [joinDigitGroups, here, inductionHypothesis later]

/-- A text that does not begin with a letter is none of the words that begin with one, in
whatever case the words are written. -/
theorem isWord_of_not_letter {c : CodePoint} {words : List Text} (rest : Text)
    (other : c.isLetter = false)
    (letters : ∀ word ∈ words, word.head?.any CodePoint.isLetter = true) :
    isWord words (c :: rest) = false := by
  rw [isWord, List.flatMap_cons, if_neg (by simp [other])]
  by_contra found
  have letter := letters _ (List.contains_iff_mem.mp (by simpa using found))
  rw [List.head?_cons, Option.any_some, other] at letter
  cases letter

/-- A numeral is read as its value: it has no blanks to trim and no groups to join, and it
is no name of a number that is not finite. -/
theorem Numeral.WrittenAs.read? {numeral : Numeral} {text : Text}
    (written : numeral.WrittenAs text) : read? text = some numeral.value := by
  have scanned := written.scan
  obtain ⟨sign, mantissa, exponent, rfl, signed, digits, marked⟩ := written
  have points : ∀ c ∈ sign ++ (mantissa ++ exponent), NumeralPoint c := by
    rw [List.forall_mem_append, List.forall_mem_append]
    exact ⟨signed.points, digits.points, marked.points⟩
  have trimmed : trim surroundsNumber (sign ++ (mantissa ++ exponent)) =
      sign ++ (mantissa ++ exponent) := by
    rw [trim_eq_self_iff]
    exact ⟨fun c first => (points c (List.mem_of_mem_head? first)).visible.1,
      fun c last => (points c (List.mem_of_getLast? last)).visible.1⟩
  have joined := joinDigitGroups_of_plain (fun c member => (points c member).visible.2) false
  have start := signed.scanSign_mantissa digits exponent
  have named : ∀ words : List Text, (∀ word ∈ words, word.head?.any CodePoint.isLetter = true) →
      isWord words (mantissa ++ exponent) = false := by
    intro words letters
    obtain ⟨c, rest, rfl, first⟩ := digits.begins
    refine isWord_of_not_letter _ ?_ letters
    rcases first with digit | rfl
    · have range := decimalDigit_range digit
      simp only [CodePoint.isLetter, Bool.or_eq_false_iff, Bool.and_eq_false_iff,
        decide_eq_false_iff_not]
      omega
    · rfl
  rw [Decimal.read?, trimmed, start]
  simp [named ["inf", "infinity"] (by decide), named ["nan"] (by decide), joined, scanned]

end Decimal

namespace Literal

/-- What the token denotes as a number: the longest numeral that it begins with, blanks
before it aside, is read as this number, and the number is finite. -/
def Denotes (token : Text) (number : Float) : Prop :=
  ∃ front, Decimal.LongestNumeral (Text.trimStart Text.isBlank token) front ∧
    Decimal.read? front = some number ∧ Decimal.isFinite number = true

/-- The longest numeral decides: its value is taken if it is finite. -/
theorem number?_of_longest {token front : Text}
    (longest : Decimal.LongestNumeral (Text.trimStart Text.isBlank token) front) :
    ∃ number, Decimal.read? front = some number ∧
      number? token = if Decimal.isFinite number then some number else none := by
  obtain ⟨numeral, rest, scanned, _, written⟩ := Decimal.Numeral.scan_of_longest longest
  refine ⟨numeral.value, written.read?, ?_⟩
  rw [number?, scanned]

/-- Without a numeral in front there is no number, whatever stands further behind in the
token. -/
theorem number?_of_no_numeral {token : Text}
    (missing : ∀ front, front <+: Text.trimStart Text.isBlank token →
      ¬ Decimal.NumeralText front) : number? token = none := by
  rw [number?, (Decimal.Numeral.scan_eq_none_iff _).mpr missing]

/-- A token that denotes no number is kept as text: as an argument it stands for itself, as
a value for what its quotes enclose. -/
theorem kept_of_no_number {token : Text} (numberless : number? token = none) :
    argument token = .text token ∧ value token = .text (.text (unquote token)) := by
  rw [argument, value, numberless]
  exact ⟨rfl, rfl⟩

/-- A text that begins with a numeral begins with a longest one. -/
theorem exists_longest {text front : Text} (leading : front <+: text)
    (numeral : Decimal.NumeralText front) : ∃ longest, Decimal.LongestNumeral text longest := by
  cases scanned : Decimal.Numeral.scan text with
  | none => exact absurd numeral ((Decimal.Numeral.scan_eq_none_iff text).mp scanned front leading)
  | some result =>
    obtain ⟨longest, _, _, decided⟩ := Decimal.Numeral.longest_of_scan scanned
    exact ⟨longest, decided⟩

/-- A token denotes the number that is found, and no other one is found. So whether a token
is a number does not depend on how it is scanned. -/
theorem number?_eq_some_iff (token : Text) (number : Float) :
    number? token = some number ↔ Denotes token number := by
  constructor
  · intro found
    cases scanned : Decimal.Numeral.scan (Text.trimStart Text.isBlank token) with
    | none => simp [number?, scanned] at found
    | some result =>
      obtain ⟨front, _, written, longest⟩ := Decimal.Numeral.longest_of_scan scanned
      simp only [number?, scanned, Option.ite_none_right_eq_some, Option.some.injEq] at found
      obtain ⟨finite, rfl⟩ := found
      exact ⟨front, longest, written.read?, finite⟩
  · rintro ⟨front, longest, read, finite⟩
    obtain ⟨other, readAgain, found⟩ := number?_of_longest longest
    rw [read, Option.some.injEq] at readAgain
    rw [found, ← readAgain, if_pos finite]

/-- A token denotes the number of the longest numeral that it begins with, blanks before it
aside, if there is one and its number is finite, and never that of a shorter numeral. Such
tokens are the numbers, and all other tokens stand for themselves. -/
theorem number_of_longest_numeral (token : Text) :
    let text := Text.trimStart Text.isBlank token
    ((∀ front, front <+: text → ¬ Decimal.NumeralText front) → number? token = none) ∧
      ((∃ front, front <+: text ∧ Decimal.NumeralText front) →
        ∃ front, Decimal.LongestNumeral text front) ∧
      (∀ front, Decimal.LongestNumeral text front →
        ∃ number, Decimal.read? front = some number ∧
          number? token = if Decimal.isFinite number then some number else none) ∧
      (isNumber token = true ↔ ∃ number, Denotes token number) ∧
      (∀ number, Denotes token number →
        argument token = .number number ∧ value token = .number number) ∧
      ((¬ ∃ number, Denotes token number) →
        argument token = .text token ∧ value token = .text (.text (unquote token))) := by
  intro text
  refine ⟨number?_of_no_numeral, ?_, fun front => number?_of_longest, ?_, ?_, ?_⟩
  · rintro ⟨front, leading, numeral⟩
    exact exists_longest leading numeral
  · rw [isNumber, Option.isSome_iff_exists]
    exact exists_congr (number?_eq_some_iff token)
  · intro number denotes
    have found := (number?_eq_some_iff token number).mpr denotes
    rw [argument, value, found]
    exact ⟨rfl, rfl⟩
  · intro undenoted
    apply kept_of_no_number
    by_contra found
    obtain ⟨number, found⟩ := Option.ne_none_iff_exists'.mp found
    exact undenoted ⟨number, (number?_eq_some_iff token number).mp found⟩

/-- An exponent without digits is left behind a numeral with digits of two scripts, after a
blank. The longest numeral is too large in the other token, and the shorter one is no
substitute. -/
theorem number_of_longest_numeral_mixed :
    (Decimal.LongestNumeral "+٣.5e+x" "+٣.5" ∧
        ∃ number, Decimal.read? "+٣.5" = some number ∧
          number? " +٣.5e+x" = some number ∧
          argument " +٣.5e+x" = .number number) ∧
      Decimal.LongestNumeral "1e999px" "1e999" ∧ number? "1e999px" = none ∧
        argument "1e999px" = .text "1e999px" := by
  have dangling : Decimal.LongestNumeral "+٣.5e+x" "+٣.5" :=
    (@Decimal.Numeral.longest_of_scan_append "+٣.5" "e+x" _ rfl).2
  have large : Decimal.LongestNumeral "1e999px" "1e999" :=
    (@Decimal.Numeral.longest_of_scan_append "1e999" "px" _ rfl).2
  obtain ⟨_, _, decides, _, numbers, _⟩ := number_of_longest_numeral " +٣.5e+x"
  obtain ⟨number, read, found⟩ := decides _ dangling
  have some : (number? " +٣.5e+x").isSome = true := by decide
  have finite : Decimal.isFinite number = true := by
    by_contra infinite
    rw [found, if_neg infinite] at some
    cases some
  have denotes : Denotes " +٣.5e+x" number := ⟨_, dangling, read, finite⟩
  refine ⟨⟨dangling, number, read, ?_, (numbers number denotes).1⟩, large, ?_⟩
  · rw [found, if_pos finite]
  · obtain ⟨_, _, _, numeric, _, others⟩ := number_of_longest_numeral "1e999px"
    have plain : isNumber "1e999px" = false := by decide
    have undenoted : ¬ ∃ number, Denotes "1e999px" number := by
      rw [← numeric, plain]
      exact Bool.false_ne_true
    exact ⟨Option.isNone_iff_eq_none.mp (Option.isSome_eq_false_iff.mp plain),
      (others undenoted).1⟩

end Literal

end SpriteScript
