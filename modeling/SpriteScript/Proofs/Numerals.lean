import SpriteScript.JavaScript.Literal
import SpriteScript.Proofs.Quotation

/-!
# The characters of written numbers

A number is written with digits, signs, a point, the mark of an exponent and the names
of the numbers that are not finite. Whatever is not among these characters does not
occur in the code of a number.
-/

namespace SpriteScript

/-- Different characters are different code points. -/
theorem CodePoint.ofChar_inj {c d : Char} (same : ofChar c = ofChar d) : c = d := by
  have read := congrArg char? same
  rw [char?_ofChar, char?_ofChar] at read
  exact Option.some.inj read

/-- A character is in a text exactly if it is among those that the text was made of. No two
characters become the same one. -/
theorem Text.mem_ofChars {c : Char} {chars : List Char} :
    CodePoint.ofChar c ∈ Text.ofChars chars ↔ c ∈ chars := by
  constructor
  · intro member
    obtain ⟨other, listed, same⟩ := List.mem_map.mp member
    exact CodePoint.ofChar_inj same ▸ listed
  · exact List.mem_map_of_mem

namespace Decimal

/-- The characters of written numbers. They are few and none of them has a meaning to a
reader of lines, strings or brackets. -/
def isNumeral (c : Char) : Bool :=
  c.isDigit || ['+', '-', '.', 'e', 'i', 'n', 'f', 'a'].contains c

/-- A text of such characters. -/
def Spelled (text : Text) : Prop :=
  ∃ chars : List Char, (∀ c ∈ chars, isNumeral c = true) ∧ text = Text.ofChars chars

/-- No other character occurs. This is what the later proofs ask of written numbers. -/
theorem Spelled.not_mem {text : Text} (spelled : Spelled text) {c : Char}
    (other : isNumeral c = false) : (c : CodePoint) ∉ text := by
  obtain ⟨chars, each, rfl⟩ := spelled
  rw [Text.mem_ofChars]
  intro member
  rw [each c member] at other
  cases other

/-- The decimal digits of a number are digits of numerals, however many there are. -/
theorem isNumeral_toDigits (n : Nat) : ∀ c ∈ Nat.toDigits 10 n, isNumeral c = true := by
  intro c member
  have digit := Nat.isDigit_of_mem_toDigits (by decide) (by decide) member
  simp [isNumeral, digit]

/-- Writing digits around a point brings zeros and the point only. -/
theorem isNumeral_positional {digits : List Char} (point : Int)
    (each : ∀ c ∈ digits, isNumeral c = true) :
    ∀ c ∈ positional digits point, isNumeral c = true := by
  have zeros : ∀ count, ∀ c ∈ List.replicate count '0', isNumeral c = true := by
    intro count c member
    rw [List.eq_of_mem_replicate member]
    rfl
  unfold positional
  split
  · simp only [List.forall_mem_append, List.cons_append, List.forall_mem_cons]
    exact ⟨rfl, rfl, zeros _, each⟩
  · split
    · simp only [List.forall_mem_append, List.forall_mem_cons]
      exact ⟨⟨each, zeros _⟩, rfl, rfl, nofun⟩
    · simp only [List.forall_mem_append, List.forall_mem_cons]
      exact ⟨fun c member => each c (List.mem_of_mem_take member), rfl,
        fun c member => each c (List.mem_of_mem_drop member)⟩

/-- Writing digits with an exponent brings a point, the mark, a sign and digits only. -/
theorem isNumeral_scientific {digits : List Char} (exponent : Int)
    (each : ∀ c ∈ digits, isNumeral c = true) :
    ∀ c ∈ scientific digits exponent, isNumeral c = true := by
  have size := isNumeral_toDigits exponent.natAbs
  unfold scientific
  simp only [List.forall_mem_append, List.forall_mem_cons]
  refine ⟨?_, rfl, ?_, ?_⟩
  · split
    · simp only [List.forall_mem_cons] at each ⊢
      exact ⟨each.1, rfl, each.2⟩
    · exact each
  · split <;> rfl
  · split
    · exact List.forall_mem_cons.mpr ⟨rfl, size⟩
    · exact size

/-- The text of a positive double is a numeral, in whichever of the two ways it is written. -/
theorem isNumeral_magnitudeText (significand : Nat) (exponent : Int) :
    ∀ c ∈ magnitudeText significand exponent, isNumeral c = true := by
  have digits := isNumeral_toDigits (shortest significand exponent).coefficient
  unfold magnitudeText
  dsimp only
  split
  · exact isNumeral_positional _ digits
  · exact isNumeral_scientific _ digits

/-- A minus may stand before a number. -/
theorem spelled_signed (negative : Prop) [Decidable negative] {magnitude : List Char}
    (each : ∀ c ∈ magnitude, isNumeral c = true) :
    Spelled (Text.ofChars (if negative then '-' :: magnitude else magnitude)) := by
  refine ⟨_, ?_, rfl⟩
  split
  · exact List.forall_mem_cons.mpr ⟨rfl, each⟩
  · exact each

/-- An integer is spelled by its digits, with a sign if it is negative. -/
theorem spelled_intText (n : Int) : Spelled (intText n) :=
  spelled_signed _ (isNumeral_toDigits n.natAbs)

/-- A double is spelled like a numeral. The words for infinite and undefined values consist
of letters that are allowed for this reason. -/
theorem spelled_text (x : Float) : Spelled (text x) := by
  unfold text
  split
  · apply spelled_signed
    split
    · exact List.all_eq_true.mp rfl
    · exact isNumeral_magnitudeText _ _
  · split
    · exact ⟨"-inf".toList, List.all_eq_true.mp rfl, rfl⟩
    · exact ⟨"inf".toList, List.all_eq_true.mp rfl, rfl⟩
  · exact ⟨"nan".toList, List.all_eq_true.mp rfl, rfl⟩

end Decimal

/-- The code of a number is spelled like a numeral, whether it is written as an integer or
as a double. -/
theorem JavaScript.spelled_numberCode {x : Float} {code : Text} (written : numberCode x = .ok code) :
    Decimal.Spelled code := by
  unfold numberCode at written
  split at written
  · cases written
  · cases written
  · split at written
    · cases written
      exact Decimal.spelled_intText _
    · cases written
      exact Decimal.spelled_text x

end SpriteScript
