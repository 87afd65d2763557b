import Mathlib.Data.List.Forall2
import SpriteScript.JavaScript.Emission
import SpriteScript.Proofs.Escaping
import SpriteScript.Proofs.Numerals
import SpriteScript.Proofs.Relexing

/-!
# String literals in generated code

A string literal is made of complete pieces between two quotes: a character that stands
for itself, a letter behind a backslash, or a number of four digits. The pieces and the
reader here work on code points, since a text value may hold half of a surrogate pair.
Each piece is read in front of whatever follows it, so a literal is read up to its own
closing quote and a list of literals item by item, whatever quotes, commas and brackets
stand inside of them.

An initial text value is written as such a literal, one piece for each character. No
initial value of any kind is written with a control character, so the line that declares
it stays one line.
-/

namespace SpriteScript

namespace Text

/-- A text without control characters, so without a line break. Line breaks of other kinds,
above the first characters, end no line of the generated code and are not meant. -/
def Unbroken (text : Text) : Prop :=
  ∀ c ∈ text, 0x20 ≤ c.value

instance (text : Text) : Decidable text.Unbroken :=
  inferInstanceAs (Decidable (∀ c ∈ text, 0x20 ≤ c.value))

/-- Two texts are free of control characters together exactly if each of them is. -/
@[simp]
theorem unbroken_append (first second : Text) :
    Unbroken (first ++ second) ↔ Unbroken first ∧ Unbroken second :=
  List.forall_mem_append

/-- Parts without control characters, joined by a separator without any, have none. -/
theorem unbroken_joined {separator : Text} {parts : List Text} (between : Unbroken separator)
    (each : ∀ part ∈ parts, Unbroken part) : Unbroken (joined separator parts) :=
  joined_induction (List.forall_mem_nil _)
    (fun first second one other => (unbroken_append first second).mpr ⟨one, other⟩) between each

end Text

/-- The text of a number has no control characters: digits, letters and signs are all that
it is spelled by. -/
theorem Decimal.Spelled.unbroken {text : Text} (spelled : Spelled text) : text.Unbroken := by
  obtain ⟨chars, each, rfl⟩ := spelled
  intro point member
  obtain ⟨c, listed, rfl⟩ := List.mem_map.mp member
  have numeral := each c listed
  show 0x20 ≤ c.toNat
  simp only [isNumeral, Char.isDigit, Bool.or_eq_true, Bool.and_eq_true, decide_eq_true_eq,
    List.contains_iff_mem, List.mem_cons, List.not_mem_nil, or_false] at numeral
  rcases numeral with ⟨low, _⟩ | rfl | rfl | rfl | rfl | rfl | rfl | rfl | rfl
  · have low : 0x30 ≤ c.toNat := low
    omega
  all_goals decide

namespace Json

open SpriteScript.Text

/-- A complete piece of a string literal, and the character that it stands for. A quote, a
backslash or a control character never stands for itself, so where a piece ends does not
depend on what follows. -/
inductive Piece : Text → CodePoint → Prop where
  | plain (c : CodePoint) (unquoted : c ≠ '"') (unescaped : c ≠ '\\') (visible : 0x20 ≤ c.value) :
      Piece [c] c
  | letter (tag plain : Char) (stands : escaped? tag = some plain) : Piece ['\\', tag] plain
  | number (first second third fourth : Char) (unit : Nat)
      (denotes : hexNumber? [first, second, third, fourth] = some unit) :
      Piece ['\\', 'u', first, second, third, fourth] (.ofNat unit)

/-- What stands between the quotes of a literal: one piece after the other, for the
characters of a text in their order. This says nothing about reading, which is related to
it below. -/
def Spells (inner text : Text) : Prop :=
  ∃ pieces, List.Forall₂ Piece pieces text ∧ inner = pieces.flatten

/-- A character given by four digits, and what follows it. Fewer digits, or characters that
are none, give no character. -/
def unitAhead : Text → Option (CodePoint × Text)
  | first :: second :: third :: fourth :: rest =>
    ([first, second, third, fourth].mapM CodePoint.char?).bind fun digits =>
      (hexNumber? digits).map fun unit => (.ofNat unit, rest)
  | _ => none

/-- The character that is meant behind a backslash, and what follows it: one that four
digits give, or one that a letter stands for. -/
def escapeAhead : Text → Option (CodePoint × Text)
  | [] => none
  | tag :: rest =>
    if tag = ('u' : CodePoint) then unitAhead rest
    else (tag.char?.bind escaped?).map fun plain => (.ofChar plain, rest)

/-- The character that the first piece stands for, and what follows the piece. There is
none in front of a closing quote or a control character. -/
def pieceAhead : Text → Option (CodePoint × Text)
  | [] => none
  | c :: rest =>
    if c = ('\\' : CodePoint) then escapeAhead rest
    else if c = ('"' : CodePoint) ∨ c.value < 0x20 then none
    else some (c, rest)

/-- Four digits and the character they give are passed together, so less is left. -/
theorem unitAhead_lt {text rest : Text} {c : CodePoint} (read : unitAhead text = some (c, rest)) :
    rest.length < text.length := by
  unfold unitAhead at read
  split at read
  · obtain ⟨digits, _, read⟩ := Option.bind_eq_some_iff.mp read
    obtain ⟨unit, _, read⟩ := Option.map_eq_some_iff.mp read
    cases read
    simp only [List.length_cons]
    omega
  · cases read

/-- Behind a backslash at least one character is passed. -/
theorem escapeAhead_lt {text rest : Text} {c : CodePoint}
    (read : escapeAhead text = some (c, rest)) : rest.length < text.length := by
  cases text with
  | nil => cases read
  | cons tag after =>
    rw [escapeAhead] at read
    split at read
    · exact Nat.lt_succ_of_lt (unitAhead_lt read)
    · obtain ⟨plain, _, read⟩ := Option.map_eq_some_iff.mp read
      cases read
      exact Nat.lt_succ_self _

/-- A piece takes at least one character, so a reader that goes on behind it comes to an
end. -/
theorem pieceAhead_lt {text rest : Text} {c : CodePoint} (read : pieceAhead text = some (c, rest)) :
    rest.length < text.length := by
  cases text with
  | nil => cases read
  | cons first after =>
    rw [pieceAhead] at read
    split at read
    · exact Nat.lt_succ_of_lt (escapeAhead_lt read)
    · split at read
      · cases read
      · cases read
        exact Nat.lt_succ_self _

/-- The text up to the closing quote, and what follows the quote. A quote inside of the
text is part of a piece and is not mistaken for the end. -/
def contentAhead (text : Text) : Option (Text × Text) :=
  if text.head? = some ('"' : CodePoint) then some ([], text.tail)
  else
    match _read : pieceAhead text with
    | none => none
    | some (c, after) => (contentAhead after).map fun (content, rest) => (c :: content, rest)
termination_by text.length
decreasing_by exact pieceAhead_lt _read

/-- The text of the literal at the front, and what follows the literal. There has to be an
opening quote. -/
def literalAhead : Text → Option (Text × Text)
  | [] => none
  | c :: rest => if c = ('"' : CodePoint) then contentAhead rest else none

/-- Reading up to the closing quote passes at least the quote. The induction is along the
pieces. -/
theorem contentAhead_lt {text content rest : Text}
    (read : contentAhead text = some (content, rest)) : rest.length < text.length := by
  fun_induction contentAhead text generalizing content with
  | case1 text closed =>
    cases read
    obtain ⟨after, rfl⟩ := List.head?_eq_some_iff.mp closed
    exact Nat.lt_succ_self _
  | case2 text _ _ => cases read
  | case3 text _ c after here inductionHypothesis =>
    obtain ⟨later, readLater, same⟩ := Option.map_eq_some_iff.mp read
    cases same
    exact Nat.lt_trans (inductionHypothesis readLater) (pieceAhead_lt here)

/-- A literal takes at least its quotes, so a list of literals can be read one by one. -/
theorem literalAhead_lt {text content rest : Text}
    (read : literalAhead text = some (content, rest)) : rest.length < text.length := by
  cases text with
  | nil => cases read
  | cons c after =>
    rw [literalAhead] at read
    split at read
    · exact Nat.lt_succ_of_lt (contentAhead_lt read)
    · cases read

/-- The texts of one or more literals up to the closing bracket, which has to be the end.
Between two of them stand a comma and a blank, as they are written. -/
def itemsAhead (text : Text) : Option (List Text) :=
  match _read : literalAhead text with
  | none => none
  | some (content, after) =>
    if after = "]" then some [content]
    else if after.take 2 = ", " then (itemsAhead (after.drop 2)).map (content :: ·)
    else none
termination_by text.length
decreasing_by
  have shorter := literalAhead_lt _read
  rw [List.length_drop]
  omega

/-- Reads a text that is one literal and nothing else. -/
def readLiteral? (text : Text) : Option Text :=
  match literalAhead text with
  | some (content, []) => some content
  | _ => none

/-- Reads a text that is a list of literals and nothing else. The empty list has no literal
to begin with, so it is read apart. -/
def readLiterals? : Text → Option (List Text)
  | [] => none
  | c :: rest =>
    if c = ('[' : CodePoint) then if rest = "]" then some [] else itemsAhead rest
    else none

/-- Every piece is read as what it stands for, whatever follows it. The cases are the three
kinds of pieces; the reader tells them apart by their first two characters. -/
theorem Piece.pieceAhead {piece : Text} {c : CodePoint} (stands : Piece piece c) (rest : Text) :
    pieceAhead (piece ++ rest) = some (c, rest) := by
  cases stands with
  | plain c unquoted unescaped visible =>
    have allowed : ¬ (c = ('"' : CodePoint) ∨ c.value < 0x20) := by
      rintro (same | below)
      · exact unquoted same
      · omega
    rw [List.singleton_append, Json.pieceAhead, if_neg unescaped, if_neg allowed]
  | letter tag plain stands =>
    have other : CodePoint.ofChar tag ≠ ('u' : CodePoint) := by
      intro same
      cases CodePoint.ofChar_inj same
      cases stands
    show escapeAhead (CodePoint.ofChar tag :: rest) = _
    rw [escapeAhead, if_neg other, CodePoint.char?_ofChar, Option.bind_some, stands]
    rfl
  | number first second third fourth unit denotes =>
    show unitAhead (CodePoint.ofChar first :: CodePoint.ofChar second :: CodePoint.ofChar third ::
      CodePoint.ofChar fourth :: rest) = _
    simp [unitAhead, CodePoint.char?_ofChar, denotes]

/-- A closing quote is no piece, and no piece begins with a quote. So the reader goes on
exactly as long as there are pieces. -/
theorem Piece.head_ne {piece : Text} {c : CodePoint} (stands : Piece piece c) (rest : Text) :
    (piece ++ rest).head? ≠ some ('"' : CodePoint) := by
  cases stands with
  | plain c unquoted => simpa using unquoted
  | letter => exact fun same => absurd (Option.some.inj same) (by decide)
  | number => exact fun same => absurd (Option.some.inj same) (by decide)

/-- Pieces up to a closing quote are read as what they spell. The induction is on the
pieces, in front of any rest. -/
theorem contentAhead_pieces {pieces : List Text} {text : Text}
    (spelled : List.Forall₂ Piece pieces text) (rest : Text) :
    contentAhead (pieces.flatten ++ ('"' : CodePoint) :: rest) = some (text, rest) := by
  induction spelled with
  | nil =>
    rw [List.flatten_nil, List.nil_append, contentAhead]
    rfl
  | @cons piece c pieces text first _ inductionHypothesis =>
    rw [List.flatten_cons, List.append_assoc, contentAhead, if_neg (first.head_ne _)]
    split
    · rename_i read
      rw [first.pieceAhead] at read
      cases read
    · rename_i read
      rw [first.pieceAhead] at read
      cases read
      rw [inductionHypothesis]
      rfl

/-- A literal is read as what it spells, whatever follows it. -/
theorem Spells.literalAhead {inner text : Text} (spells : Spells inner text) (rest : Text) :
    literalAhead ("\"" ++ inner ++ "\"" ++ rest) = some (text, rest) := by
  obtain ⟨pieces, spelled, rfl⟩ := spells
  have content := contentAhead_pieces spelled rest
  rw [List.append_assoc, List.append_assoc]
  exact content

/-- A text that is a literal is read as what the literal spells. -/
theorem Spells.readLiteral {inner text : Text} (spells : Spells inner text) :
    readLiteral? ("\"" ++ inner ++ "\"") = some text := by
  have read := spells.literalAhead []
  rw [List.append_nil] at read
  rw [readLiteral?, read]

/-- A literal spells one text only, because it is read as one. -/
theorem Spells.unique {inner text other : Text} (spells : Spells inner text)
    (also : Spells inner other) : text = other :=
  Option.some.inj (spells.readLiteral.symm.trans also.readLiteral)

/-- A control character is written by a number of four digits, and these are enough for it. -/
theorem piece_unitEscape {c : CodePoint} (basic : c.value < 0x10000) :
    Piece (unitEscape c.value) c := by
  have denoted := @hexNumber?_hexDigits 4 c.value (by simpa using basic)
  simp only [hexDigits, List.nil_append, List.cons_append, List.filterMap_cons,
    CodePoint.char?_ofChar, List.filterMap_nil] at denoted
  have point : CodePoint.ofNat c.value = c := dif_pos c.bounded
  have piece := Piece.number _ _ _ _ c.value denoted
  rw [point] at piece
  exact piece

/-- Every character is written as one piece that stands for it: by a letter if there is
one, by its number if it is another control character, and else by itself. -/
theorem piece_writtenPoint (c : CodePoint) : Piece (writtenPoint false c) c := by
  have escaped := escaped_writtenPoint false c
  generalize writtenPoint false c = written at escaped ⊢
  cases escaped with
  | @letter tag plain stands printed basic same =>
    rw [(Token.eq_ofChar_iff c plain).mpr same]
    exact .letter tag plain stands
  | control below => exact piece_unitEscape (by omega)
  | beyond restricted => cases restricted
  | plain unquoted unescaped visible => exact .plain c unquoted unescaped visible

/-- What is written for a text spells it, one piece for each character. Halves of surrogate
pairs are characters like any other here. -/
theorem spells_writtenPoints (text : Text) : Spells (text.flatMap (writtenPoint false)) text := by
  refine ⟨text.map (writtenPoint false), ?_, rfl⟩
  rw [List.forall₂_map_left_iff, List.forall₂_same]
  exact fun c _ => piece_writtenPoint c

/-- A piece is its character, or it is longer. That the character stands for itself can
therefore be told from the length. -/
theorem Piece.single_or_long {piece : Text} {c : CodePoint} (stands : Piece piece c) :
    (piece = [c] ∧ c ≠ '"' ∧ c ≠ '\\' ∧ 0x20 ≤ c.value) ∨ 2 ≤ piece.length := by
  cases stands with
  | plain c unquoted unescaped visible => exact .inl ⟨rfl, unquoted, unescaped, visible⟩
  | letter => exact .inr (by simp)
  | number => exact .inr (by simp)

/-- No text is written shorter than it is, since each piece has at least one character. -/
theorem length_le_writtenPoints (text : Text) :
    text.length ≤ (text.flatMap (writtenPoint false)).length := by
  induction text with
  | nil => exact Nat.le_refl 0
  | cons c rest inductionHypothesis =>
    rw [List.flatMap_cons, List.length_append, List.length_cons]
    rcases (piece_writtenPoint c).single_or_long with ⟨single, _⟩ | long
    · rw [single, List.length_singleton]
      omega
    · omega

/-- A character that need not be escaped is written as it is. None of the tests for an
escape applies to it. -/
theorem writtenPoint_plain {c : CodePoint} (unquoted : c ≠ '"') (unescaped : c ≠ '\\')
    (visible : 0x20 ≤ c.value) : writtenPoint false c = [c] := by
  have other : ∀ control : Char, control.toNat < 0x20 → ¬ (c == (control : CodePoint)) = true := by
    intro control below same
    rw [beq_iff_eq.mp same] at visible
    exact absurd below (Nat.not_lt.mpr visible)
  have number : ∀ control : Nat, control < 0x20 → ¬ (c.value == control) = true := by
    intro control below same
    rw [beq_iff_eq.mp same] at visible
    omega
  rw [writtenPoint, if_neg (by simpa using unquoted), if_neg (by simpa using unescaped),
    if_neg (other '\n' (by decide)), if_neg (other '\r' (by decide)),
    if_neg (other '\t' (by decide)), if_neg (number 0x08 (by decide)),
    if_neg (number 0x0c (by decide)), if_neg (by omega), if_neg (by simp)]

/-- A text is written as it is exactly if nothing in it is escaped: an escape would make it
longer. -/
theorem writtenPoints_eq_self_iff (text : Text) :
    text.flatMap (writtenPoint false) = text ↔
      ∀ c ∈ text, c ≠ '"' ∧ c ≠ '\\' ∧ 0x20 ≤ c.value := by
  induction text with
  | nil => simp
  | cons c rest inductionHypothesis =>
    rw [List.flatMap_cons, List.forall_mem_cons, ← inductionHypothesis]
    constructor
    · intro same
      rcases (piece_writtenPoint c).single_or_long with ⟨single, plain⟩ | long
      · rw [single] at same
        exact ⟨plain, (List.cons.inj same).2⟩
      · have lengths := congrArg List.length same
        have rest_le := length_le_writtenPoints rest
        rw [List.length_append, List.length_cons] at lengths
        omega
    · rintro ⟨⟨unquoted, unescaped, visible⟩, later⟩
      rw [writtenPoint_plain unquoted unescaped visible, later]
      rfl

/-- The literal of a text is read as the text, whatever follows it. -/
theorem literalAhead_writtenText (text rest : Text) :
    literalAhead (writtenText false text ++ rest) = some (text, rest) :=
  (spells_writtenPoints text).literalAhead rest

/-- After a literal the list ends or goes on. This is the step of the reader, free of the
proof that it ends. -/
theorem itemsAhead_of_read {text content after : Text}
    (read : literalAhead text = some (content, after)) :
    itemsAhead text =
      if after = "]" then some [content]
      else if after.take 2 = ", " then (itemsAhead (after.drop 2)).map (content :: ·)
      else none := by
  rw [itemsAhead]
  split
  · rename_i unread
    rw [read] at unread
    cases unread
  · rename_i again
    rw [read] at again
    cases again
    rfl

/-- Literals are read back item by item up to the closing bracket. The induction is on the
texts behind the first; what follows a literal is never read as part of it. -/
theorem itemsAhead_joined (text : Text) (texts : List Text) :
    itemsAhead (joined ", " ((text :: texts).map (writtenText false)) ++ "]") =
      some (text :: texts) := by
  induction texts generalizing text with
  | nil =>
    have read := literalAhead_writtenText text "]"
    have single : joined ", " ([text].map (writtenText false)) = writtenText false text := by
      simp [joined]
    rw [single, itemsAhead_of_read read, if_pos rfl]
  | cons next others inductionHypothesis =>
    have read := literalAhead_writtenText text
      (", " ++ (joined ", " ((next :: others).map (writtenText false)) ++ "]"))
    have more : joined ", " ((text :: next :: others).map (writtenText false)) ++ "]" =
        writtenText false text ++
          (", " ++ (joined ", " ((next :: others).map (writtenText false)) ++ "]")) := by
      rw [List.map_cons, List.map_cons, joined_cons_cons, List.append_assoc, List.append_assoc]
    have begins : ∀ rest : Text, (", " ++ rest : Text).take 2 = ", " := fun _ => rfl
    have after : ∀ rest : Text, (", " ++ rest : Text).drop 2 = rest := fun _ => rfl
    have goesOn : ∀ rest : Text, (", " ++ rest : Text) ≠ "]" := by
      intro rest same
      exact absurd (List.cons.inj same).1 (by decide)
    rw [more, itemsAhead_of_read read, if_neg (goesOn _), if_pos (begins _), after,
      inductionHypothesis]
    rfl

/-- A list of literals is read back, and so is the empty list. -/
theorem readLiterals_joined (texts : List Text) :
    readLiterals? ("[" ++ joined ", " (texts.map (writtenText false)) ++ "]") = some texts := by
  cases texts with
  | nil => rfl
  | cons text others =>
    have items := itemsAhead_joined text others
    have none : itemsAhead "]" = none := by
      rw [itemsAhead]
      rfl
    have more : joined ", " ((text :: others).map (writtenText false)) ++ "]" ≠ "]" := by
      intro same
      rw [same, none] at items
      cases items
    have opened : ∀ rest : Text, ("[" ++ rest : Text) = ('[' : CodePoint) :: rest := fun _ => rfl
    rw [List.append_assoc, opened, readLiterals?, if_pos rfl, if_neg more, items]

/-- A character is written without control characters: those have escapes, and the
characters of an escape are none. -/
theorem unbroken_writtenPoint (c : CodePoint) : Unbroken (writtenPoint false c) := by
  have escaped := escaped_writtenPoint false c
  generalize writtenPoint false c = written at escaped ⊢
  cases escaped with
  | @letter tag plain stands printed basic same =>
    simp only [isPrinted, Bool.and_eq_true, decide_eq_true_eq] at printed
    exact List.forall_mem_cons.mpr ⟨by decide, List.forall_mem_singleton.mpr printed.1⟩
  | control below =>
    rw [unitEscape, unbroken_append]
    exact ⟨by decide, hexDigits_each (by decide) 4 c.value⟩
  | beyond restricted => cases restricted
  | plain unquoted unescaped visible => exact List.forall_mem_singleton.mpr visible

/-- The literal of a text has no control characters, whatever the text has. -/
theorem unbroken_writtenText (text : Text) : Unbroken (writtenText false text) := by
  rw [writtenText, unbroken_append, unbroken_append]
  refine ⟨⟨by decide, ?_⟩, by decide⟩
  intro point member
  obtain ⟨c, _, held⟩ := List.mem_flatMap.mp member
  exact unbroken_writtenPoint c point held

/-- A double is written without control characters, also if it is infinite or undefined. -/
theorem unbroken_writtenFloat (x : Float) : Unbroken (writtenFloat x) := by
  unfold writtenFloat
  split
  · exact (Decimal.spelled_text x).unbroken
  · split <;> decide
  · decide

/-- The style of initial values has no lines of its own, so brackets around items bring
none. -/
theorem unbroken_enclose (level : Nat) {opening closing : Text} {items : List Text}
    (before : Unbroken opening) (after : Unbroken closing) (each : ∀ item ∈ items, Unbroken item) :
    Unbroken (Style.enclose { ascii := false } level opening closing items) := by
  have inside := @unbroken_joined ", " items (by decide) each
  unfold Style.enclose
  split
  · simp [before, after]
  · simp only [Style.lineBreak, Style.separator, unbroken_append]
    exact ⟨⟨⟨⟨before, by decide⟩, inside⟩, by decide⟩, after⟩

mutual

/-- A datum is written without control characters. The induction is over data with their
items and entries, at any depth. -/
theorem unbroken_writeAt (level : Nat) : (datum : Datum) →
    Unbroken (writeAt { ascii := false } level datum)
  | .null => show Unbroken "null" by decide
  | .bool true => show Unbroken "true" by decide
  | .bool false => show Unbroken "false" by decide
  | .int value => (Decimal.spelled_intText value).unbroken
  | .float value => unbroken_writtenFloat value
  | .text value => unbroken_writtenText value
  | .list items =>
    unbroken_enclose level (by decide) (by decide) (unbroken_writeItems (level + 1) items)
  | .mapping entries =>
    unbroken_enclose level (by decide) (by decide) (unbroken_writeEntries (level + 1) entries)

/-- Items are written without control characters, each for itself. -/
theorem unbroken_writeItems (level : Nat) : (items : List Datum) →
    ∀ text ∈ writeItems { ascii := false } level items, Unbroken text
  | [] => List.forall_mem_nil _
  | item :: rest =>
    List.forall_mem_cons.mpr ⟨unbroken_writeAt level item, unbroken_writeItems level rest⟩

/-- Entries are written without control characters, since keys are texts. -/
theorem unbroken_writeEntries (level : Nat) : (entries : List (Text × Datum)) →
    ∀ text ∈ writeEntries { ascii := false } level entries, Unbroken text
  | [] => List.forall_mem_nil _
  | (key, value) :: rest => by
    refine List.forall_mem_cons.mpr ⟨?_, unbroken_writeEntries level rest⟩
    rw [unbroken_append, unbroken_append]
    exact ⟨⟨unbroken_writtenText key, by decide⟩, unbroken_writeAt level value⟩

end

end Json

namespace JavaScript

open SpriteScript.Text

/-- No initial value is written with a control character, be it a number, a text or a datum
of another kind. -/
theorem unbroken_valueCode {value : Value} {code : Text} (written : valueCode value = .ok code) :
    Unbroken code := by
  cases value with
  | number value => exact (spelled_numberCode written).unbroken
  | text content =>
    obtain ⟨_, rfl⟩ := eq_of_valueCode_text written
    exact Json.unbroken_writeAt 0 content

/-- A text as an initial value. -/
def textValue (text : Text) : Value :=
  .text (.text text)

/-- Text values are written as literals, each for itself and all of them. -/
theorem valueCodes_texts (texts : List Text) :
    (texts.map textValue).mapM valueCode = .ok (texts.map (Json.writtenText false)) := by
  induction texts with
  | nil => rfl
  | cons text rest inductionHypothesis =>
    rw [List.map_cons, List.mapM_cons, inductionHypothesis]
    rfl

/-- The line that declares a name with the code of its initial value. The only line break
in it is its end, if there is none in the name and the code. -/
def declarationLine (name code : Text) : Text :=
  "let " ++ name ++ " = " ++ code ++ ";\n"

/-- The code of a list between its brackets. -/
def listCode (codes : List Text) : Text :=
  "[" ++ joined ", " codes ++ "]"

/-- The declaration of a variable is that of its name with the code of its value. -/
theorem variableLine_code {name line : Text} {value : Value}
    (declared : variableLine name value = .ok line) :
    ∃ code, valueCode value = .ok code ∧ line = declarationLine name code := by
  obtain ⟨code, initial, declared⟩ := exists_ok_of_bind declared
  exact ⟨code, initial, (Except.ok.inj declared).symm⟩

/-- The declaration of a list is that of its name with the codes of its values between
brackets. -/
theorem listLine_code {name line : Text} {values : List Value}
    (declared : listLine name values = .ok line) :
    ∃ codes, values.mapM valueCode = .ok codes ∧ line = declarationLine name (listCode codes) := by
  obtain ⟨codes, initial, declared⟩ := exists_ok_of_bind declared
  refine ⟨codes, initial, (Except.ok.inj declared).symm.trans ?_⟩
  have opening : (" = [" : Text) = " = " ++ "[" := rfl
  have closing : ("];\n" : Text) = "]" ++ ";\n" := rfl
  simp only [declarationLine, listCode, opening, closing, List.append_assoc]

/-- Initial text values are written as complete string literals that are read back. The
literal of a text has no control character, spells this text and no other, and is the text
itself exactly if nothing in it has to be escaped. Different texts have different literals,
and a declared list of texts is read back from its code. No declaration has a line break in
the code of its initial value, whatever the value is. -/
theorem text_literals_faithful :
    (∀ text : Text, ∃ inner, valueCode (textValue text) = .ok ("\"" ++ inner ++ "\"") ∧
      Unbroken inner ∧ (∀ read, Json.Spells inner read ↔ read = text) ∧
      Json.readLiteral? ("\"" ++ inner ++ "\"") = some text ∧
      (inner = text ↔ ∀ c ∈ text, c ≠ '"' ∧ c ≠ '\\' ∧ 0x20 ≤ c.value)) ∧
    Function.Injective (fun text => valueCode (textValue text)) ∧
    (∀ (name : Text) (texts : List Text), ∃ codes,
      (texts.map textValue).mapM valueCode = .ok codes ∧
      listLine name (texts.map textValue) = .ok (declarationLine name (listCode codes)) ∧
      Json.readLiterals? (listCode codes) = some texts) ∧
    (∀ (name line : Text) (value : Value), variableLine name value = .ok line →
      ∃ code, valueCode value = .ok code ∧ line = declarationLine name code ∧ Unbroken code) ∧
    ∀ (name line : Text) (values : List Value), listLine name values = .ok line →
      ∃ codes, values.mapM valueCode = .ok codes ∧
        line = declarationLine name (listCode codes) ∧ Unbroken (listCode codes) := by
  refine ⟨?_, ?_, ?_, ?_, ?_⟩
  · intro text
    have spells := Json.spells_writtenPoints text
    have written := Json.unbroken_writtenText text
    rw [Json.writtenText, unbroken_append, unbroken_append] at written
    refine ⟨text.flatMap (Json.writtenPoint false), rfl, written.1.2, ?_, spells.readLiteral,
      Json.writtenPoints_eq_self_iff text⟩
    intro read
    constructor
    · exact fun also => also.unique spells
    · exact fun same => same ▸ spells
  · intro text other same
    have literal := (Json.spells_writtenPoints text).readLiteral
    have otherLiteral := (Json.spells_writtenPoints other).readLiteral
    have code : Json.writtenText false text = Json.writtenText false other := Except.ok.inj same
    have same := (congrArg Json.readLiteral? code).trans otherLiteral
    exact Option.some.inj (literal.symm.trans same)
  · intro name texts
    cases declared : listLine name (texts.map textValue) with
    | error error =>
      rw [listLine, valueCodes_texts] at declared
      cases declared
    | ok line =>
      obtain ⟨codes, initial, rfl⟩ := listLine_code declared
      refine ⟨codes, initial, rfl, ?_⟩
      rw [valueCodes_texts] at initial
      cases initial
      exact Json.readLiterals_joined texts
  · intro name line value declared
    obtain ⟨code, initial, rfl⟩ := variableLine_code declared
    exact ⟨code, initial, rfl, unbroken_valueCode initial⟩
  · intro name line values declared
    obtain ⟨codes, initial, rfl⟩ := listLine_code declared
    have each : ∀ code ∈ codes, Unbroken code := by
      intro code member
      obtain ⟨value, _, here⟩ := mem_of_mapM_ok initial code member
      exact unbroken_valueCode here
    have inside := @unbroken_joined ", " codes (by decide) each
    refine ⟨codes, initial, rfl, ?_⟩
    rw [listCode, unbroken_append, unbroken_append]
    exact ⟨⟨by decide, inside⟩, by decide⟩

/-- A declared text with a quote, a line break and a control character, and a list of texts
that look like the end of one. -/
theorem text_literals_faithful_mixed :
    variableLine "n" (textValue "\"\n\x01") =
        .ok (declarationLine "n" "\"\\\"\\n\\u0001\"") ∧
      Unbroken "\"\\\"\\n\\u0001\"" ∧
      ∃ codes, listLine "l" ([("\"]" : Text), ("" : Text), (", " : Text)].map textValue) =
          .ok (declarationLine "l" (listCode codes)) ∧
        Json.readLiterals? (listCode codes) = some [("\"]" : Text), ("" : Text), (", " : Text)] ∧
        Unbroken (listCode codes) := by
  obtain ⟨_, _, listed, unbroken, unbrokenList⟩ := text_literals_faithful
  have declared : variableLine "n" (textValue "\"\n\x01") =
      .ok (declarationLine "n" "\"\\\"\\n\\u0001\"") := rfl
  obtain ⟨code, initial, _, clear⟩ := unbroken _ _ _ declared
  obtain ⟨codes, initials, declaredList, read⟩ :=
    listed "l" [("\"]" : Text), ("" : Text), (", " : Text)]
  obtain ⟨others, again, _, clearList⟩ := unbrokenList _ _ _ declaredList
  have same : code = "\"\\\"\\n\\u0001\"" := (Except.ok.inj initial).symm
  have sameList : codes = others := Except.ok.inj (initials.symm.trans again)
  exact ⟨declared, same ▸ clear, codes, declaredList, read, sameList ▸ clearList⟩

end JavaScript

end SpriteScript
