import SpriteScript.Json.Reader
import SpriteScript.Json.Writer
import SpriteScript.Proofs.Quotation
import SpriteScript.Proofs.Segmentation
import SpriteScript.Text.Basic

/-!
# JSON text in ASCII is read back

In ASCII a character stands for itself, behind a backslash, or for its UTF-16 units, each
by four digits. A character that is written is read back as its units in front of
whatever follows it. Two halves that follow each other are read as one character, so a
text is read back if no half of a pair stands in it on its own.
-/

namespace SpriteScript

namespace Text

/-- A text in which no half of a surrogate pair stands on its own. All text that is decoded
from bytes is whole, but a text that is read from escapes need not be. -/
def Whole (text : Text) : Prop :=
  ∀ c ∈ text, c.isHalf = false

/-- Characters are whole. -/
theorem whole_ofChars (chars : List Char) : Whole (ofChars chars) := by
  intro point member
  obtain ⟨c, _, rfl⟩ := List.mem_map.mp member
  have read := CodePoint.char?_ofChar c
  unfold CodePoint.char? at read
  split at read
  · cases read
  · rename_i whole
    simpa using whole

/-- Characters are written as they are. -/
theorem plain_ofChars (chars : List Char) : plain (ofChars chars) = String.ofList chars := by
  rw [plain]
  congr 1
  induction chars with
  | nil => rfl
  | cons c rest inductionHypothesis =>
    rw [ofChars, List.map_cons, List.flatMap_cons, CodePoint.char?_ofChar]
    exact congrArg (c :: ·) inductionHypothesis

end Text

namespace Json

open SpriteScript.Text

/-- The UTF-16 units of a character. Above the basic plane there are two of them, and each
is escaped on its own. -/
def units (c : CodePoint) : List Nat :=
  if c.value < 0x10000 then [c.value]
  else [0xd800 + (c.value - 0x10000) / 0x400, 0xdc00 + (c.value - 0x10000) % 0x400]

/-- A unit that opens no pair is a character on its own. -/
theorem joinUnits_cons {unit : Nat} (single : isHighSurrogate unit = false) (rest : List Nat) :
    joinUnits (unit :: rest) = .ofNat unit :: joinUnits rest := by
  cases rest with
  | nil => rfl
  | cons next others => rw [joinUnits, single, Bool.false_and, if_neg (by decide)]

/-- The units of a whole text are joined to the text. Two units of a pair come from one
character, as no half stands on its own. -/
theorem joinUnits_units {text : Text} (whole : Whole text) :
    joinUnits (text.flatMap units) = text := by
  induction text with
  | nil => rfl
  | cons c rest inductionHypothesis =>
    obtain ⟨here, later⟩ := List.forall_mem_cons.mp whole
    have bounded := c.bounded
    have point : CodePoint.ofNat c.value = c := dif_pos c.bounded
    rw [List.flatMap_cons, units]
    split
    · have single : isHighSurrogate c.value = false := by
        simp only [CodePoint.isHalf, Bool.and_eq_false_iff, decide_eq_false_iff_not] at here
        simp only [isHighSurrogate, Bool.and_eq_false_iff, decide_eq_false_iff_not]
        omega
      rw [List.singleton_append, joinUnits_cons single, point, inductionHypothesis later]
    · rename_i beyond
      have opens : isHighSurrogate (0xd800 + (c.value - 0x10000) / 0x400) = true := by
        simp only [isHighSurrogate, Bool.and_eq_true, decide_eq_true_eq]
        omega
      have closes : isLowSurrogate (0xdc00 + (c.value - 0x10000) % 0x400) = true := by
        simp only [isLowSurrogate, Bool.and_eq_true, decide_eq_true_eq]
        omega
      have number : 0x10000 + (0xd800 + (c.value - 0x10000) / 0x400 - 0xd800) * 0x400 +
          (0xdc00 + (c.value - 0x10000) % 0x400 - 0xdc00) = c.value := by omega
      rw [List.cons_append, List.singleton_append, joinUnits, opens, closes, Bool.and_self,
        if_pos rfl, number, point, inductionHypothesis later]

/-- The characters of ASCII that are printed. -/
def isPrinted (c : Char) : Bool :=
  0x20 ≤ c.toNat && c.toNat ≤ 0x7e

/-- A text of such characters that is read as these units, whatever follows it. The quote
that ends a string may so be the first of what follows. -/
def Escapes (written : Text) (read : List Nat) : Prop :=
  ∃ chars : List Char, written = ofChars chars ∧ (∀ c ∈ chars, isPrinted c = true) ∧
    ∀ rest, readUnits (chars ++ rest) =
      (readUnits rest).map fun (later, after) => (read ++ later, after)

/-- The empty text escapes no units. -/
theorem escapes_nil : Escapes [] [] :=
  ⟨[], rfl, List.forall_mem_nil _, fun rest => by simp⟩

/-- Escapes one after the other are read one after the other, since what follows the first
may be anything. -/
theorem Escapes.append {first second : Text} {read later : List Nat} (escapes : Escapes first read)
    (continued : Escapes second later) : Escapes (first ++ second) (read ++ later) := by
  obtain ⟨chars, rfl, printed, reads⟩ := escapes
  obtain ⟨others, rfl, alsoPrinted, readsOn⟩ := continued
  refine ⟨chars ++ others, by simp [ofChars], ?_, ?_⟩
  · rw [List.forall_mem_append]
    exact ⟨printed, alsoPrinted⟩
  · intro rest
    rw [List.append_assoc, reads, readsOn, Option.map_map]
    simp [Function.comp_def]

/-- A unit is read back from its four digits. A larger number would not fit them. -/
theorem escapes_unitEscape {unit : Nat} (bounded : unit < 0x10000) :
    Escapes (unitEscape unit) [unit] := by
  have printed : ∀ digit < 16, isPrinted (Nat.digitChar digit) = true := by decide
  have digit : ∀ number, isPrinted (Nat.digitChar (number % 16)) = true :=
    fun number => printed _ (Nat.mod_lt _ (by decide))
  have denoted := @hexNumber?_hexDigits 4 unit (by simpa using bounded)
  simp only [hexDigits, List.nil_append, List.cons_append, List.filterMap_cons,
    CodePoint.char?_ofChar, List.filterMap_nil] at denoted
  refine ⟨['\\', 'u', Nat.digitChar (unit / 16 / 16 / 16 % 16), Nat.digitChar (unit / 16 / 16 % 16),
    Nat.digitChar (unit / 16 % 16), Nat.digitChar (unit % 16)], rfl, ?_, ?_⟩
  · simp only [List.forall_mem_cons]
    exact ⟨by decide, by decide, digit _, digit _, digit _, digit _, List.forall_mem_nil _⟩
  · intro rest
    simp only [List.cons_append, List.nil_append]
    rw [readUnits, denoted]

/-- A character is read back from the escapes of its units. -/
theorem escapes_pointEscape (c : CodePoint) : Escapes (pointEscape c) (units c) := by
  have bounded := c.bounded
  unfold pointEscape units
  split
  · rename_i basic
    exact escapes_unitEscape basic
  · have high := @escapes_unitEscape (0xd800 + (c.value - 0x10000) / 0x400) (by omega)
    have low := @escapes_unitEscape (0xdc00 + (c.value - 0x10000) % 0x400) (by omega)
    exact high.append low

/-- A letter behind a backslash is read back as what it stands for. -/
theorem escapes_letter {letter plain : Char} (stands : escaped? letter = some plain)
    (printed : isPrinted letter = true) : Escapes ['\\', letter] [plain.toNat] := by
  refine ⟨['\\', letter], rfl, ?_, ?_⟩
  · simp only [List.forall_mem_cons]
    exact ⟨by decide, printed, List.forall_mem_nil _⟩
  · intro rest
    have other : letter ≠ 'u' := by
      rintro rfl
      cases stands
    simp only [List.cons_append, List.nil_append]
    rw [readUnits, stands]
    · simp [other]

/-- Any other character is read as itself. -/
theorem escapes_plain {c : Char} (printed : isPrinted c = true) (unquoted : c ≠ '"')
    (unescaped : c ≠ '\\') : Escapes [(c : CodePoint)] [c.toNat] := by
  refine ⟨[c], rfl, by simpa using printed, ?_⟩
  intro rest
  simp only [isPrinted, Bool.and_eq_true, decide_eq_true_eq] at printed
  have visible : ¬ (decide (c.toNat < 0x20) || c == '\\') = true := by
    simp only [Bool.or_eq_true, decide_eq_true_eq, beq_iff_eq, not_or]
    exact ⟨by omega, unescaped⟩
  rw [List.singleton_append, readUnits, if_neg visible]
  · rfl
  · exact unquoted
  · simp [unescaped]
  · simp [unescaped]

/-- A character of the basic plane is one unit, its number. -/
theorem units_basic {c : CodePoint} (basic : c.value < 0x10000) : units c = [c.value] :=
  if_pos basic

/-- How a character is written in a string: by a letter, by its number, or as it is. Only
ASCII that is printed is written as it is if `ascii` is asked for. -/
inductive Escaped (ascii : Bool) (c : CodePoint) : Text → Prop where
  | letter {tag plain : Char} (stands : escaped? tag = some plain) (printed : isPrinted tag = true)
      (basic : plain.toNat < 0x10000) (same : c.value = plain.toNat) : Escaped ascii c ['\\', tag]
  | control (below : c.value < 0x20) : Escaped ascii c (unitEscape c.value)
  | beyond (restricted : ascii = true) : Escaped ascii c (pointEscape c)
  | plain (unquoted : c ≠ '"') (unescaped : c ≠ '\\') (visible : 0x20 ≤ c.value)
      (within : ascii = true → c.value < 0x7f) : Escaped ascii c [c]

/-- Every character is written in one of these ways. -/
theorem escaped_writtenPoint (ascii : Bool) (c : CodePoint) :
    Escaped ascii c (writtenPoint ascii c) := by
  have letter : ∀ {plain tag : Char}, escaped? tag = some plain → isPrinted tag = true →
      plain.toNat < 0x10000 → (c == (plain : CodePoint)) = true → Escaped ascii c ['\\', tag] := by
    intro plain tag stands printed basic same
    refine .letter stands printed basic ?_
    rw [beq_iff_eq.mp same]
    rfl
  -- One test after the other: to split the whole expression simplifies what is left each time.
  unfold writtenPoint
  refine iteInduction (letter rfl rfl (by decide)) fun quote => ?_
  refine iteInduction (letter rfl rfl (by decide)) fun backslash => ?_
  refine iteInduction (letter rfl rfl (by decide)) fun _ => ?_
  refine iteInduction (letter rfl rfl (by decide)) fun _ => ?_
  refine iteInduction (letter rfl rfl (by decide)) fun _ => ?_
  refine iteInduction (fun same => ?_) fun _ => ?_
  · exact @Escaped.letter _ _ 'b' '\x08' rfl rfl (by decide) (beq_iff_eq.mp same)
  refine iteInduction (fun same => ?_) fun _ => ?_
  · exact @Escaped.letter _ _ 'f' '\x0c' rfl rfl (by decide) (beq_iff_eq.mp same)
  refine iteInduction .control fun visible => ?_
  refine iteInduction (fun beyond => .beyond (Bool.and_eq_true_iff.mp beyond).1) fun within => ?_
  refine .plain (by simpa using quote) (by simpa using backslash) (by omega) ?_
  rintro rfl
  simpa using within

/-- Every character is read back as its units. -/
theorem escapes_writtenPoint (c : CodePoint) : Escapes (writtenPoint true c) (units c) := by
  have escaped := escaped_writtenPoint true c
  generalize writtenPoint true c = written at escaped ⊢
  cases escaped with
  | letter stands printed basic same =>
    rw [units_basic (same ▸ basic), same]
    exact escapes_letter stands printed
  | control below =>
    have basic : c.value < 0x10000 := by omega
    rw [units_basic basic]
    exact escapes_unitEscape basic
  | beyond => exact escapes_pointEscape c
  | plain unquoted unescaped visible within =>
    have below := within rfl
    have basic : c.value < 0x10000 := by omega
    have valid : c.value.isValidChar := .inl (by omega)
    have number : (Char.ofNat c.value).toNat = c.value := by
      rw [Char.ofNat, dif_pos valid]
      rfl
    have char : c = CodePoint.ofChar (Char.ofNat c.value) :=
      (Token.eq_ofChar_iff c _).mpr number.symm
    have printed : isPrinted (Char.ofNat c.value) = true := by
      simp only [isPrinted, number, Bool.and_eq_true, decide_eq_true_eq]
      omega
    have plain := escapes_plain printed (fun same => unquoted (same ▸ char))
      (fun same => unescaped (same ▸ char))
    rwa [number, ← char, ← units_basic basic] at plain

/-- A text is read back as the units of its characters. Whether these are joined to the
same text depends on the text. -/
theorem escapes_text (text : Text) :
    Escapes (text.flatMap (writtenPoint true)) (text.flatMap units) := by
  induction text with
  | nil => exact escapes_nil
  | cons c rest inductionHypothesis =>
    rw [List.flatMap_cons, List.flatMap_cons]
    exact (escapes_writtenPoint c).append inductionHypothesis

/-- A whole text is read back up to its closing quote. What is written consists of
characters that every channel keeps. -/
theorem exists_readText {text : Text} (whole : Whole text) :
    ∃ chars, text.flatMap (writtenPoint true) = ofChars chars ∧ (∀ c ∈ chars, isPrinted c = true) ∧
      ∀ rest, readText (chars ++ '"' :: rest) = some (text, rest) := by
  obtain ⟨chars, written, printed, reads⟩ := escapes_text text
  refine ⟨chars, written, printed, ?_⟩
  intro rest
  rw [readText, reads, readUnits]
  simp [joinUnits_units whole]

/-- A mapping with one text is read in three steps: the mapping, its key, its value. The
bound on nesting is counted down by them. -/
theorem readValue_entry {key value : Text} {keyChars valueChars : List Char}
    (keyRead : ∀ rest, readText (keyChars ++ '"' :: rest) = some (key, rest))
    (valueRead : ∀ rest, readText (valueChars ++ '"' :: rest) = some (value, rest))
    (bound : Nat) (rest : List Char) :
    readValue (bound + 3) ('\x7b' :: '"' :: (keyChars ++ '"' :: ':' :: ' ' :: '"' ::
      (valueChars ++ '"' :: '\x7d' :: rest))) = some (.mapping [(key, .text value)], rest) := by
  have content : readValue (bound + 1) ('"' :: (valueChars ++ '"' :: '\x7d' :: rest)) =
      some (.text value, '\x7d' :: rest) := by
    have quoted : ∀ after, readValue (bound + 1) ('"' :: after) =
        (readText after).map fun read => (.text read.1, read.2) := fun _ => rfl
    rw [quoted, valueRead]
    rfl
  have entries : readEntries (bound + 2) ('"' :: (keyChars ++ '"' :: ':' :: ' ' :: '"' ::
      (valueChars ++ '"' :: '\x7d' :: rest))) = some ([(key, .text value)], rest) := by
    rw [readEntries, keyRead]
    have colon : ∀ after, skipSpace (':' :: after) = ':' :: after := fun _ => rfl
    have blank : ∀ after, skipSpace (' ' :: '"' :: after) = '"' :: after := fun _ => rfl
    have brace : ∀ after, skipSpace ('\x7d' :: after) = '\x7d' :: after := fun _ => rfl
    simp only [colon, blank, content, brace]
  have opened : readValue (bound + 3) ('\x7b' :: '"' :: (keyChars ++ '"' :: ':' :: ' ' :: '"' ::
      (valueChars ++ '"' :: '\x7d' :: rest))) = (readEntries (bound + 2) ('"' :: (keyChars ++ '"' ::
      ':' :: ' ' :: '"' :: (valueChars ++ '"' :: '\x7d' :: rest)))).map fun read =>
        (.mapping (read.1.foldl (fun known entry => upsert entry.1 entry.2 known) []), read.2) := rfl
  rw [opened, entries]
  rfl

/-- A mapping with one text is written in ASCII on one line, and read back with blanks
after it. -/
theorem exists_read_entry {key value : Text} (wholeKey : Whole key) (wholeValue : Whole value) :
    ∃ chars, write { ascii := true } (.mapping [(key, .text value)]) = ofChars chars ∧
      (∀ c ∈ chars, isPrinted c = true) ∧
      ∀ blanks, (∀ c ∈ blanks, isSpace c = true) →
        read? (String.ofList (chars ++ blanks)) = some (.mapping [(key, .text value)]) := by
  obtain ⟨keyChars, keyWritten, keyPrinted, keyRead⟩ := exists_readText wholeKey
  obtain ⟨valueChars, valueWritten, valuePrinted, valueRead⟩ := exists_readText wholeValue
  refine ⟨'\x7b' :: '"' :: (keyChars ++ '"' :: ':' :: ' ' :: '"' :: (valueChars ++ ['"', '\x7d'])),
    ?_, ?_, ?_⟩
  · simp only [write, writeAt, writeEntries, Style.enclose, Style.lineBreak, writtenText, keyWritten,
      valueWritten, joined, List.isEmpty_cons, Bool.false_eq_true, ↓reduceIte]
    simp [ofChars]
    rfl
  · simp only [List.forall_mem_cons, List.forall_mem_append]
    exact ⟨by decide, by decide, keyPrinted, by decide, by decide, by decide, by decide, valuePrinted,
      by decide, by decide, List.forall_mem_nil _⟩
  · intro blanks spaces
    have ended : (skipSpace blanks).isEmpty = true := by
      rw [skipSpace, List.dropWhile_eq_nil_iff.mpr spaces]
      rfl
    have read := readValue_entry keyRead valueRead
    rw [read?, String.toList_ofList]
    simp only [List.cons_append, List.append_assoc, List.nil_append]
    generalize ahead : '"' :: (keyChars ++ '"' :: ':' :: ' ' :: '"' :: (valueChars ++ '"' :: '\x7d' ::
      blanks)) = tail
    have start : skipSpace ('\x7b' :: tail) = '\x7b' :: tail := rfl
    have steps : 2 * ('\x7b' :: tail).length + 2 = 2 * tail.length + 1 + 3 := by
      rw [List.length_cons]
      omega
    rw [start, steps, ← ahead, read]
    simp only [ended, ↓reduceIte]

end Json

end SpriteScript
