import Mathlib.Algebra.Group.Nat.Defs
import SpriteScript.Text.Quoted

/-!
# Quoted text tells what it quotes

A character inside quotes is written as itself, by a letter after a backslash, or by
its number in a width that the letter tells. What was written first can therefore be
read back, whatever follows it, and two texts with the same quotation are equal.
-/

namespace SpriteScript

/-- A character is the one with its code point. -/
theorem CodePoint.char?_ofChar (c : Char) : (ofChar c).char? = some c := by
  have whole : ¬ (ofChar c).isHalf = true := by
    have valid : (ofChar c).value.isValidChar := c.valid
    simp only [Nat.isValidChar] at valid
    simp only [isHalf, Bool.and_eq_true, decide_eq_true_eq]
    omega
  rw [char?, if_neg whole]
  exact congrArg some (Char.ofNat_toNat c)

namespace Text

/-- A number is written with as many digits as asked for, the first of them zeros if need
be. -/
theorem length_hexDigits (width number : Nat) : (hexDigits width number).length = width := by
  induction width generalizing number with
  | zero => rfl
  | succ width inductionHypothesis =>
    rw [hexDigits, List.length_append, inductionHypothesis, List.length_singleton]

/-- What holds of every digit holds of the digits of a number. -/
theorem hexDigits_each {holds : CodePoint → Prop}
    (digit : ∀ value < 16, holds (CodePoint.ofChar (Nat.digitChar value))) (width number : Nat) :
    ∀ c ∈ hexDigits width number, holds c := by
  induction width generalizing number with
  | zero => exact List.forall_mem_nil _
  | succ width inductionHypothesis =>
    rw [hexDigits, List.forall_mem_append, List.forall_mem_singleton]
    exact ⟨inductionHypothesis _, digit _ (Nat.mod_lt number (by decide))⟩

/-- A digit of either case has the value that it was written for. -/
theorem hexValue?_digitChar : ∀ digit < 16, hexValue? (Nat.digitChar digit) = some digit := by
  decide

/-- Digits denote the number that they were written for, if it fits their width. A larger
number would lose its leading digits. -/
theorem hexNumber?_hexDigits {width number : Nat} (bounded : number < 16 ^ width) :
    hexNumber? ((hexDigits width number).filterMap CodePoint.char?) = some number := by
  induction width generalizing number with
  | zero =>
    rw [Nat.pow_zero] at bounded
    rw [Nat.lt_one_iff.mp bounded]
    rfl
  | succ width inductionHypothesis =>
    have higher : number / 16 < 16 ^ width := by
      rw [Nat.pow_succ] at bounded
      exact Nat.div_lt_of_lt_mul (Nat.mul_comm _ _ ▸ bounded)
    have last : [CodePoint.ofChar (Nat.digitChar (number % 16))].filterMap CodePoint.char? =
        [Nat.digitChar (number % 16)] := by
      rw [List.filterMap_cons, CodePoint.char?_ofChar, List.filterMap_nil]
    have whole := inductionHypothesis higher
    simp only [hexNumber?] at whole ⊢
    rw [hexDigits, List.filterMap_append, last, List.foldlM_append, whole]
    simp only [Option.bind_eq_bind, Option.bind_some, List.foldlM_cons, List.foldlM_nil,
      hexValue?_digitChar _ (Nat.mod_lt number (by decide)), Option.map_some, Nat.div_add_mod]
    rfl

/-- A character given by a number of `width` digits, and what follows it. There is none if
digits are missing. -/
def numberedAhead (width : Nat) (text : Text) : Option (CodePoint × Text) :=
  (hexNumber? ((text.take width).filterMap CodePoint.char?)).map fun number =>
    (.ofNat number, text.drop width)

/-- The character that is escaped behind a backslash, and what follows it. The tag tells
how many digits the number of the character has. -/
def escapedAhead : Text → Option (CodePoint × Text)
  | [] => none
  | tag :: rest =>
    if tag = ('n' : CodePoint) then some ('\n', rest)
    else if tag = ('r' : CodePoint) then some ('\r', rest)
    else if tag = ('t' : CodePoint) then some ('\t', rest)
    else if tag = ('x' : CodePoint) then numberedAhead 2 rest
    else if tag = ('u' : CodePoint) then numberedAhead 4 rest
    else if tag = ('U' : CodePoint) then numberedAhead 8 rest
    else some (tag, rest)

/-- The first character inside quotes, and what follows it. This is the reader that shows
that quoting can be undone. -/
def pointAhead : Text → Option (CodePoint × Text)
  | [] => none
  | c :: rest => if c = ('\\' : CodePoint) then escapedAhead rest else some (c, rest)

/-- A numbered character is read back if its number fits the width. -/
theorem numberedAhead_hexDigits {width : Nat} {c : CodePoint} (bounded : c.value < 16 ^ width)
    (rest : Text) : numberedAhead width (hexDigits width c.value ++ rest) = some (c, rest) := by
  have digits : (hexDigits width c.value ++ rest).take width = hexDigits width c.value :=
    List.take_left' (length_hexDigits width c.value)
  have after : (hexDigits width c.value ++ rest).drop width = rest :=
    List.drop_left' (length_hexDigits width c.value)
  have point : CodePoint.ofNat c.value = c := dif_pos c.bounded
  rw [numberedAhead, digits, after, hexNumber?_hexDigits bounded, Option.map_some, point]

/-- The quotes that may stand around a text. -/
def IsQuotation (quote : CodePoint) : Prop :=
  quote = '\'' ∨ quote = '"'

/-- The quote that is chosen for a text is one of the two. -/
theorem quoteFor_isQuotation (text : Text) : IsQuotation (quoteFor text) := by
  unfold quoteFor
  split
  · exact .inr rfl
  · exact .inl rfl

/-- A character between quotes is read back, whatever follows it. The cases are the ways in
which it can be written. -/
theorem pointAhead_quotedPoint {quote : CodePoint} (quotation : IsQuotation quote) (c : CodePoint)
    (rest : Text) : pointAhead (quotedPoint quote c ++ rest) = some (c, rest) := by
  unfold quotedPoint
  split
  · rename_i marked
    -- Neither quote nor the backslash is a letter with a meaning of its own.
    have untagged : c = '\'' ∨ c = '"' ∨ c = '\\' := by
      rcases Bool.or_eq_true_iff.mp marked with same | same
      · rw [beq_iff_eq.mp same]
        exact quotation.elim .inl (.inr ∘ .inl)
      · exact .inr (.inr (beq_iff_eq.mp same))
    rcases untagged with rfl | rfl | rfl <;> rfl
  · rename_i unmarked
    have plain : c ≠ ('\\' : CodePoint) := by
      intro same
      simp [same] at unmarked
    split
    · rename_i same
      rw [beq_iff_eq.mp same]
      rfl
    split
    · rename_i same
      rw [beq_iff_eq.mp same]
      rfl
    split
    · rename_i same
      rw [beq_iff_eq.mp same]
      rfl
    split
    · exact if_neg plain
    split
    · rename_i small
      exact @numberedAhead_hexDigits 2 c small rest
    split
    · rename_i small
      exact @numberedAhead_hexDigits 4 c small rest
    · exact @numberedAhead_hexDigits 8 c (Nat.lt_trans c.bounded (by decide)) rest

/-- A quote inside a text is not written as the quote that ends it. -/
theorem quotedPoint_append_ne {quote : CodePoint} (quotation : IsQuotation quote) (c : CodePoint)
    (rest : Text) : quotedPoint quote c ++ rest ≠ [quote] := by
  intro ends
  have read := pointAhead_quotedPoint quotation c rest
  have mark : pointAhead [quote] = some (quote, []) := by
    rcases quotation with rfl | rfl <;> rfl
  rw [ends, mark] at read
  obtain ⟨rfl, rfl⟩ := Prod.mk.inj (Option.some.inj read)
  have escaped : quotedPoint quote quote = [('\\' : CodePoint), quote] := by simp [quotedPoint]
  rw [escaped] at ends
  cases ends

/-- What stands between quotes tells the text. The induction reads one character of both
texts at a time. -/
theorem eq_of_quotedPoints {quote : CodePoint} (quotation : IsQuotation quote) {text other : Text}
    (same : text.flatMap (quotedPoint quote) ++ [quote] =
      other.flatMap (quotedPoint quote) ++ [quote]) : text = other := by
  induction text generalizing other with
  | nil =>
    cases other with
    | nil => rfl
    | cons c rest =>
      rw [List.flatMap_cons, List.append_assoc] at same
      exact absurd same.symm (quotedPoint_append_ne quotation c _)
  | cons c rest inductionHypothesis =>
    rw [List.flatMap_cons, List.append_assoc] at same
    cases other with
    | nil => exact absurd same (quotedPoint_append_ne quotation c _)
    | cons d others =>
      rw [List.flatMap_cons, List.append_assoc] at same
      have read := congrArg pointAhead same
      rw [pointAhead_quotedPoint quotation, pointAhead_quotedPoint quotation] at read
      obtain ⟨rfl, later⟩ := Prod.mk.inj (Option.some.inj read)
      rw [inductionHypothesis later]

/-- Texts that are quoted alike are equal. So a report that shows a token in quotes tells
which token it was. -/
theorem quoted_inj {text other : Text} (same : quoted text = quoted other) : text = other := by
  obtain ⟨quotes, inside⟩ := List.cons.inj same
  rw [← quotes] at inside
  exact eq_of_quotedPoints (quoteFor_isQuotation text) inside

end Text

end SpriteScript
