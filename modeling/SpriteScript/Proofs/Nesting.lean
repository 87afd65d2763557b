import SpriteScript.Proofs.Rendering
import SpriteScript.Proofs.Wholeness

/-!
# The brackets of scripts are nested

A word of brackets is nested if each opening bracket is closed by its partner, with a
nested word between the two and another one after them. A text is balanced if its
brackets, read in order, form a nested word.

If no name and no text of a program holds a bracket, the only brackets of its scripts are
those that the code of a block brings along and those around expressions. The lines that
open a block may leave brackets open, even several of them. What matters of a block is
therefore what its lines do around a nested word: they enclose it, and the whole is nested
again. By induction over the tree behind a script this carries over to the script.
-/

namespace SpriteScript

namespace Text

open SpriteScript.Token

/-- The brackets that belong together: round, square and curly ones, each with the opening
one first. -/
def bracketPairs : List (CodePoint × CodePoint) :=
  [('(', ')'), ('[', ']'), ('\x7b', '\x7d')]

/-- Every bracket is closed by its partner, and closed inside of what is around it. A word
is taken apart at its first bracket and the partner of that. -/
inductive Nested : Text → Prop where
  | empty : Nested []
  | pair (opening closing : CodePoint) (inner rest : Text)
      (paired : (opening, closing) ∈ bracketPairs) (inside : Nested inner) (after : Nested rest) :
      Nested (opening :: (inner ++ closing :: rest))

/-- The brackets of a text, in order. All else is left out, also quotes: a bracket in a
literal counts like any other. -/
def brackets (text : Text) : Text :=
  text.filter isBracket

/-- The brackets of a text are nested. -/
def Balanced (text : Text) : Prop :=
  Nested text.brackets

/-- A text without brackets. This is what names and texts of a program are asked for, since
they may stand anywhere in its code. -/
def Unbracketed (text : Text) : Prop :=
  ∀ c ∈ text, isBracket c = false

instance (text : Text) : Decidable text.Unbracketed :=
  inferInstanceAs (Decidable (∀ c ∈ text, isBracket c = false))

/-- Nested words one after the other are nested. The induction is on the first: the second
goes behind its last pair. -/
theorem Nested.append {first second : Text} (one : Nested first) (other : Nested second) :
    Nested (first ++ second) := by
  induction one with
  | empty => exact other
  | pair opening closing inner rest paired inside _ _ afterHypothesis =>
    have same : opening :: (inner ++ closing :: rest) ++ second =
        opening :: (inner ++ closing :: (rest ++ second)) := by
      rw [List.cons_append, List.append_assoc, List.cons_append]
    rw [same]
    exact .pair opening closing inner _ paired inside afterHypothesis

/-- The brackets of two texts are read one after the other. -/
@[simp]
theorem brackets_append (first second : Text) :
    brackets (first ++ second) = brackets first ++ brackets second :=
  List.filter_append first second

/-- A text without brackets contributes none, so it can be dropped from a longer one. -/
theorem brackets_of_unbracketed {text : Text} (clear : Unbracketed text) : brackets text = [] := by
  rw [brackets, List.filter_eq_nil_iff]
  intro c member
  simp [clear c member]

/-- A single character that is no bracket contributes none. -/
theorem brackets_singleton {c : CodePoint} (other : isBracket c = false) : brackets [c] = [] :=
  brackets_of_unbracketed (List.forall_mem_singleton.mpr other)

/-- A text without brackets is balanced, for nothing in it is left open. -/
theorem Unbracketed.balanced {text : Text} (clear : Unbracketed text) : Balanced text := by
  rw [Balanced, brackets_of_unbracketed clear]
  exact .empty

/-- Balanced texts one after the other are balanced. -/
theorem Balanced.append {first second : Text} (one : Balanced first) (other : Balanced second) :
    Balanced (first ++ second) := by
  rw [Balanced, brackets_append]
  exact Nested.append one other

/-- Balanced lines put together are a balanced text. The lines of a block are not of this
kind, since a line before its body leaves brackets open. -/
theorem balanced_flatten {parts : List Text} (each : ∀ part ∈ parts, Balanced part) :
    Balanced parts.flatten := by
  induction parts with
  | nil => exact .empty
  | cons part rest inductionHypothesis =>
    obtain ⟨first, later⟩ := List.forall_mem_cons.mp each
    exact first.append (inductionHypothesis later)

/-- A text with no other characters than one without brackets has none either. -/
theorem Unbracketed.mono {text more : Text} (clear : Unbracketed more) (among : text ⊆ more) :
    Unbracketed text :=
  fun c member => clear c (among member)

/-- The brackets by their numbers. Lower case works on numbers, so what it does to brackets
is decided by them. -/
theorem isBracket_eq_false_iff (c : CodePoint) :
    isBracket c = false ↔ c.value ≠ 0x28 ∧ c.value ≠ 0x29 ∧ c.value ≠ 0x5b ∧ c.value ≠ 0x5d ∧
      c.value ≠ 0x7b ∧ c.value ≠ 0x7d := by
  simp [isBracket, eq_ofChar_iff, and_assoc]

/-- A character beyond the brackets, or between the square and the curly ones, is none. -/
theorem isBracket_ofNat {number : Nat} (apart : 0x7d < number ∨ 0x5d < number ∧ number < 0x7b) :
    isBracket (.ofNat number) = false := by
  rw [isBracket_eq_false_iff]
  unfold CodePoint.ofNat
  split
  · dsimp only
    omega
  · decide

/-- A change that keeps the brackets of each character keeps those of a text. -/
theorem brackets_flatMap {change : CodePoint → Text}
    (each : ∀ c, brackets (change c) = brackets [c]) (text : Text) :
    brackets (text.flatMap change) = brackets text := by
  induction text with
  | nil => rfl
  | cons c rest inductionHypothesis =>
    rw [List.flatMap_cons, brackets_append, each, inductionHypothesis, ← brackets_append]
    rfl

/-- No run of letters is lowered to a bracket: it ends beyond all of them, or between the
square and the curly ones. This is checked run by run. -/
theorem loweredRuns_unbracketed : ∀ run ∈ loweredRuns, 0x7d < run.first + run.shift ∨
    0x5d < run.first + run.shift ∧ run.last + run.shift < 0x7b := by
  decide +kernel

/-- A character stays, or it is no bracket and is lowered to none. -/
theorem brackets_lowerPoint (c : CodePoint) : brackets (lowerPoint c) = brackets [c] := by
  have lowered := lowered_lowerPoint c
  generalize lowerPoint c = written at lowered ⊢
  cases lowered with
  | same => rfl
  | capital atLeast atMost =>
    have other : isBracket c = false := (isBracket_eq_false_iff c).mpr (by omega)
    rw [brackets_singleton other]
    exact brackets_singleton (isBracket_ofNat (by omega))
  | dotted is =>
    have other : isBracket c = false := (isBracket_eq_false_iff c).mpr (by omega)
    rw [brackets_singleton other]
    rfl
  | shifted run listed beyond atLeast atMost =>
    have other : isBracket c = false := (isBracket_eq_false_iff c).mpr (by omega)
    have apart := loweredRuns_unbracketed run listed
    rw [brackets_singleton other]
    exact brackets_singleton (isBracket_ofNat (by omega))

/-- Lower case keeps the brackets of a text. The induction is for any text in front, which
decides only which of two letters a sigma becomes, and neither is a bracket. -/
theorem brackets_lowerAfter (before text : Text) :
    brackets (lowerAfter before text) = brackets text := by
  induction text generalizing before with
  | nil => rfl
  | cons c rest inductionHypothesis =>
    rw [lowerAfter, brackets_append, inductionHypothesis, ← List.singleton_append (l := rest),
      brackets_append]
    congr 1
    split
    · rename_i sigma
      have other : isBracket c = false := by
        rw [isBracket_eq_false_iff]
        simp only [beq_iff_eq] at sigma
        omega
      rw [brackets_singleton other]
      split <;> rfl
    · exact brackets_lowerPoint c

/-- Two words that together enclose every nested word. Neither has to be nested: what the
first leaves open is closed by the second. -/
def Frames (before after : Text) : Prop :=
  ∀ word, Nested word → Nested (before ++ word ++ after)

/-- What encloses the brackets of a text makes a balanced text of a balanced one. The
brackets of the enclosing texts are given apart, since most often they are known. -/
theorem Frames.balanced {opening closing before inside after : Text}
    (frames : Frames opening closing) (within : Balanced inside)
    (opens : brackets before = opening) (closes : brackets after = closing) :
    Balanced (before ++ inside ++ after) := by
  rw [Balanced, brackets_append, brackets_append, opens, closes]
  exact frames _ within

/-- Frames are put inside of each other. What is opened last is closed first. -/
theorem Frames.around {before after inner outer : Text} (frames : Frames before outer)
    (within : Frames after inner) : Frames (before ++ after) (inner ++ outer) := by
  intro word nested
  have whole := frames _ (within word nested)
  simpa using whole

/-- A nested word may stand before what is opened, since it is closed by then. -/
theorem Frames.behind {first before after : Text} (nested : Nested first)
    (frames : Frames before after) : Frames (first ++ before) after := by
  intro word inside
  rw [List.append_assoc, List.append_assoc, ← List.append_assoc before]
  exact nested.append (frames word inside)

/-- A nested word with nothing after it is a frame: it leaves nothing open. A block without
a body has such lines only. -/
theorem frames_nested {first : Text} (nested : Nested first) : Frames first [] := by
  intro word inside
  rw [List.append_nil]
  exact nested.append inside

/-- Parentheses enclose. -/
theorem frames_parentheses : Frames ['('] [')'] :=
  fun word nested => .pair _ _ word [] (by decide) nested .empty

/-- Braces enclose. -/
theorem frames_braces : Frames ['\x7b'] ['\x7d'] :=
  fun word nested => .pair _ _ word [] (by decide) nested .empty

/-- Parentheses around a nested word, and braces after them: what loops, conditionals and
functions look like. -/
theorem frames_condition {condition : Text} (nested : Nested condition) :
    Frames (('(' : CodePoint) :: (condition ++ ([')', '\x7b'] : Text))) ['\x7d'] := by
  have tested : Nested (('(' : CodePoint) :: (condition ++ ([')'] : Text))) :=
    .pair _ _ condition [] (by decide) nested .empty
  simpa using frames_braces.behind tested

/-- Balanced parts joined by a balanced separator are a balanced text. -/
theorem balanced_joined {separator : Text} {parts : List Text} (between : Balanced separator)
    (each : ∀ part ∈ parts, Balanced part) : Balanced (joined separator parts) :=
  joined_induction .empty (fun _ _ => Balanced.append) between each

end Text

namespace Json

open SpriteScript.Text SpriteScript.Token

/-- A character is written with its own brackets only. An escape has none, and no bracket is
written by an escape. -/
theorem brackets_writtenPoint (c : CodePoint) :
    brackets (writtenPoint false c) = brackets [c] := by
  have escaped := escaped_writtenPoint false c
  generalize writtenPoint false c = written at escaped ⊢
  cases escaped with
  | @letter tag plain stands _ _ same =>
    have others : isBracket c = false ∧ isBracket tag = false := by
      rw [isBracket_eq_false_iff, same]
      unfold escaped? at stands
      split at stands <;> cases stands <;> decide
    rw [brackets_singleton others.1]
    exact brackets_singleton others.2
  | control below =>
    rw [unitEscape, brackets_append, brackets_of_unbracketed (hexDigits_each (by decide) 4 _),
      @brackets_singleton c (by rw [isBracket_eq_false_iff]; omega)]
    rfl
  | beyond restricted => cases restricted
  | plain => rfl

/-- A literal has the brackets of its text, for quotes and escapes bring none. -/
theorem brackets_writtenText (text : Text) :
    brackets (writtenText false text) = brackets text := by
  rw [writtenText, brackets_append, brackets_append, brackets_flatMap brackets_writtenPoint]
  exact List.append_nil _

end Json

/-- An argument in which no text holds a bracket. Any other datum stands in the code as
it is shown. -/
inductive Argument.Unbracketed : Argument → Prop where
  | number (value : Float) : Unbracketed (.number value)
  | text (value : Text) (clear : value.Unbracketed) : Unbracketed (.text value)
  | expression (parts : List Argument) (each : ∀ part ∈ parts, Unbracketed part) :
      Unbracketed (.expression parts)
  | other (datum : Datum) (clear : datum.shown.Unbracketed) : Unbracketed (.other datum)

/-- Of a text nothing else is asked than to hold no bracket. -/
@[simp]
theorem Argument.unbracketed_text (value : Text) :
    (Argument.text value).Unbracketed ↔ value.Unbracketed :=
  ⟨fun | .text _ clear => clear, .text value⟩

/-- Of an expression it is asked of each part. The brackets around it come with its code. -/
@[simp]
theorem Argument.unbracketed_expression (parts : List Argument) :
    (Argument.expression parts).Unbracketed ↔ ∀ part ∈ parts, part.Unbracketed :=
  ⟨fun | .expression _ each => each, .expression parts⟩

/-- A block in whose name and arguments no text holds a bracket. The name is asked for
because comments show it. -/
structure Block.Unbracketed (block : Block) : Prop where
  name : block.name.shown.Unbracketed
  arguments : ∀ argument ∈ block.args, argument.Unbracketed

/-- A program in whose blocks no text holds a bracket, also in those that no script
reaches. Declarations do not stand among the scripts, so they are free. -/
def Program.Unbracketed (program : Program) : Prop :=
  ∀ block ∈ program.blocks, block.Unbracketed

/-- The text of a number has no brackets: digits, signs, points and letters are all that it
is spelled by. -/
theorem Decimal.Spelled.unbracketed {text : Text} (spelled : Spelled text) : text.Unbracketed := by
  intro c member
  rw [← Bool.not_eq_true]
  intro bracket
  simp only [Token.isBracket, Bool.or_eq_true, beq_iff_eq] at bracket
  rcases bracket with ((((rfl | rfl) | rfl) | rfl) | rfl) | rfl <;>
    exact spelled.not_mem (by decide) member

namespace JavaScript

open SpriteScript.Text

/-- The code of an argument is balanced: only expressions have brackets around them. The
induction is on the argument, so that the parts of an expression are balanced inside. -/
theorem balanced_argumentCode {argument : Argument} (clear : argument.Unbracketed) {code : Text}
    (written : argumentCode argument = .ok code) : Text.Balanced code := by
  induction clear generalizing code with
  | number value => exact (spelled_numberCode written).unbracketed.balanced
  | text value clear =>
    cases written
    exact clear.balanced
  | expression parts _ inductionHypothesis =>
    have written : (argumentCodes parts >>= fun codes => _) = .ok code := written
    obtain ⟨codes, each, written⟩ := exists_ok_of_bind written
    cases written
    rw [argumentCodes_eq_mapM] at each
    have inside : ∀ code ∈ codes, Text.Balanced code := by
      intro code member
      obtain ⟨part, listed, here⟩ := mem_of_mapM_ok each code member
      exact inductionHypothesis part listed here
    exact frames_parentheses.balanced (balanced_joined .empty inside) rfl rfl
  | other datum clear =>
    rw [(eq_of_datumCode written).2]
    have shown := clear.balanced
    cases datum with
    | int value => exact shown
    | _ => exact .append (.append .empty shown) .empty

/-- What stands for a name is balanced. A text loses only its quotes there, and any other
argument is written as it is. -/
theorem balanced_nameCode {argument : Argument} (clear : argument.Unbracketed) {name : Text}
    (named : nameCode argument = .ok name) : Text.Balanced name := by
  cases argument with
  | text value =>
    cases named
    rw [Argument.unbracketed_text] at clear
    exact (clear.mono (trim_subset _ value)).balanced
  | _ => exact balanced_argumentCode clear named

/-- The argument at a place is balanced. If there is none, a fixed word stands for it. -/
theorem balanced_argumentAt {block : Block}
    (clear : ∀ argument ∈ block.args, argument.Unbracketed) {index : Nat} {code : Text}
    {warnings : List Warning} (written : argumentAt block index = .ok (code, warnings)) :
    Text.Balanced code := by
  unfold argumentAt at written
  split at written
  · rename_i argument given
    obtain ⟨own, here, written⟩ := exists_ok_of_bind written
    cases written
    exact balanced_argumentCode (clear argument (List.mem_of_getElem? given)) here
  · cases written
    exact .empty

/-- The key of an event without brackets is balanced. It may still have brackets, if it is
taken from an argument that is an expression. -/
theorem balanced_keyOf {event key : Text} {args : List Argument} (clearEvent : event.Unbracketed)
    (clear : ∀ argument ∈ args, argument.Unbracketed) (named : keyOf event args = .ok key) :
    Text.Balanced key := by
  unfold keyOf at named
  split at named
  · exact balanced_nameCode (clear _ (by simp)) named
  · cases named
    exact (clearEvent.mono (removeFrom_subset _ _ event)).balanced

/-- Blanks in front of a line bring no brackets, so depth does not matter here. -/
@[simp]
theorem brackets_indented (indent : Nat) (code : Text) :
    brackets (indented indent code) = brackets code := by
  have blanks : Unbracketed (List.replicate (4 * indent) (' ' : CodePoint)) := by
    intro c member
    rw [List.eq_of_mem_replicate member]
    rfl
  rw [indented, brackets_append, brackets_of_unbracketed blanks, List.nil_append]

/-- The lines of a fragment enclose every balanced text. Those before the body need not be
balanced, and neither those after it, but together they are. -/
def Fragment.Encloses (fragment : Fragment) : Prop :=
  Frames (brackets fragment.opening.flatten) (brackets fragment.closing.flatten)

/-- A fragment of one line encloses if its line is balanced, since nothing comes after the
body that it does not have. -/
theorem Fragment.encloses_line (scope : Scope) {code : Text} (warnings : List Warning)
    (balanced : Text.Balanced code) : (Fragment.line scope code warnings).Encloses := by
  have line : Text.Balanced (indented scope.indent (code ++ "\n")) := by
    rw [Text.Balanced, brackets_indented]
    exact balanced.append .empty
  refine frames_nested ?_
  rwa [Fragment.line, List.flatten_singleton]

/-- The call that registers a handler, up to its body and after it: a function stands inside
of the parentheses of the call. -/
theorem frames_handler : Frames ['(', '(', ')', '\x7b'] ['\x7d', ')'] :=
  frames_parentheses.around (frames_condition .empty)

/-- A handler for the start encloses its body by the call that registers it. -/
theorem encloses_startHandler (scope : Scope) : (startHandler scope).Encloses := by
  simp only [Fragment.Encloses, startHandler, List.flatten_cons, List.flatten_nil,
    List.append_nil, brackets_append, brackets_indented]
  exact frames_handler

/-- A handler for a key encloses its body by the call that registers it and by the condition
on the key. The key is shown twice, in a comment and in the condition, and may have
brackets of its own. -/
theorem encloses_keyHandler (scope : Scope) {key : Text} (balanced : Text.Balanced key) :
    (keyHandler scope key).Encloses := by
  have lowered : brackets (Json.writtenText false (lower key)) = brackets key := by
    rw [Json.brackets_writtenText, lower, brackets_lowerAfter]
  simp only [Fragment.Encloses, keyHandler, List.flatten_cons, List.flatten_nil,
    List.append_nil, brackets_append, brackets_indented, lowered, List.append_assoc]
  -- The condition begins with a call, and the key may be an expression with brackets.
  have condition : Nested ('(' :: ')' :: brackets key) :=
    .pair _ _ [] _ (by decide) .empty balanced
  have handler := frames_handler.around (frames_condition condition)
  exact .behind .empty (.behind balanced (.behind .empty handler))

/-- A method of the sprite is called. The sprite is taken from a list, which brings the square
brackets. -/
theorem frames_spriteCall : Frames ['[', ']', '('] [')'] :=
  frames_parentheses.behind (.pair _ _ [] [] (by decide) .empty .empty)

/-- The lines of a loop enclose its body. Apart from the count, only the two ends of the
line before the body have brackets. -/
theorem encloses_countedLoop (scope : Scope) {count : Text} (warnings : List Warning)
    (balanced : Text.Balanced count) : (countedLoop scope count warnings).Encloses := by
  have counter := brackets_of_unbracketed (Decimal.spelled_intText scope.loops).unbracketed
  simp (disch := decide) only [Fragment.Encloses, countedLoop, List.flatten_singleton,
    brackets_append, brackets_indented, counter, List.append_assoc, brackets_of_unbracketed,
    List.nil_append]
  exact frames_condition balanced

/-- The lines of a conditional enclose its body, whatever balanced text the condition is. -/
theorem encloses_conditional (scope : Scope) {condition : Text} (warnings : List Warning)
    (balanced : Text.Balanced condition) : (conditional scope condition warnings).Encloses := by
  simp only [Fragment.Encloses, conditional, List.flatten_singleton, brackets_append,
    brackets_indented, List.append_assoc]
  exact frames_condition balanced

/-- The line of a statement of a block without brackets of its own is balanced. The calls
among the statements enclose their arguments, and the other statements have brackets only in
what they show. -/
theorem Statement.balanced {block : Block} {code : Text} (statement : Statement block code)
    (clear : block.Unbracketed) : Text.Balanced code := by
  have shown := clear.name.balanced
  cases statement with
  | move steps warnings first =>
    exact frames_spriteCall.balanced (balanced_argumentAt clear.arguments first) rfl rfl
  | say message warnings first =>
    exact frames_spriteCall.balanced (balanced_argumentAt clear.arguments first) rfl rfl
  | sayFor message seconds warnings time first given second =>
    have timed := balanced_argumentCode (clear.arguments time given) second
    have inside : Text.Balanced (message ++ (", " ++ seconds)) :=
      (balanced_argumentAt clear.arguments first).append (.append .empty timed)
    have call : Text.Balanced (sprite ++ ".say(" ++ (message ++ (", " ++ seconds)) ++ ");") :=
      frames_spriteCall.balanced inside rfl rfl
    simpa using call
  | wait seconds warnings first =>
    have calls := frames_parentheses.around frames_parentheses
    exact calls.balanced (balanced_argumentAt clear.arguments first) rfl rfl
  | assign operator name value warnings target known given first second =>
    have plain : operator.Unbracketed := by rcases known with rfl | rfl <;> decide
    have named := balanced_nameCode (clear.arguments target given) first
    have assigned := balanced_argumentAt clear.arguments second
    have front : Text.Balanced (name ++ " " ++ operator) :=
      .append (.append named .empty) plain.balanced
    exact .append (.append (.append front .empty) assigned) .empty
  | nameless => exact .append (.append .empty shown) .empty
  | expression code whole =>
    exact .append (balanced_argumentCode (.expression block.args clear.arguments) whole) .empty
  | unknownEvent code first =>
    have clearEvent := event_of_each (.text _ (by decide)) clear.arguments
    exact .append .empty (balanced_argumentCode clearEvent first)
  | unsupported => exact .append .empty shown

/-- The lines of every block without brackets of its own enclose every balanced text, in
whichever way the block is written. A block that could not be written has no lines, and these
enclose as well. -/
theorem encloses_fragment (scope : Scope) {block : Block} (clear : block.Unbracketed) :
    (fragment scope block).Encloses := by
  cases writing_of_block block with
  | failed warnings error fault made =>
    rw [made]
    exact frames_nested .empty
  | line code warnings statement form made =>
    rw [made]
    exact Fragment.encloses_line scope warnings (statement.balanced clear)
  | start form made =>
    rw [made]
    exact encloses_startHandler scope
  | key event key form first named made =>
    rw [made]
    have clearEvent := event_of_each (.text _ (by decide)) clear.arguments
    rw [first, Argument.unbracketed_text] at clearEvent
    exact encloses_keyHandler scope (balanced_keyOf clearEvent clear.arguments named)
  | loop count warnings form first made =>
    rw [made]
    exact encloses_countedLoop scope warnings (balanced_argumentAt clear.arguments first)
  | conditional condition warnings form first made =>
    rw [made]
    exact encloses_conditional scope warnings (balanced_argumentAt clear.arguments first)

/-- A block without brackets of its own is rendered balanced if its body is. A body that is
left out is empty, and the lines of the block enclose that too. -/
theorem balanced_renderBlock {indent loops : Nat} {block : Block}
    {body : Nat → Nat → Except Error Output} {output : Output} (clear : block.Unbracketed)
    (rendered : renderBlock indent loops block body = .ok output)
    (inner : ∀ deeper around inside, body deeper around = .ok inside →
      Text.Balanced inside.lines.flatten) :
    Text.Balanced output.lines.flatten := by
  obtain ⟨inside, rfl, written⟩ := renderBlock_cases rendered
  have within : Text.Balanced inside.lines.flatten := by
    rcases written with ⟨deeper, around, entered⟩ | ⟨_, rfl⟩
    · exact inner deeper around inside entered
    · exact .empty
  rw [Output.within, List.flatten_append, List.flatten_append]
  exact (encloses_fragment ⟨indent, loops⟩ clear).balanced within rfl rfl

/-- A tree of blocks without brackets of their own is rendered balanced, at any depth. The
induction is on the tree, with the body at the depth that its block gives it. -/
theorem balanced_renderTree {indent loops : Nat} {tree : Tree} {output : Output}
    (clear : ∀ node ∈ tree.nodes, node.2.Unbracketed)
    (rendered : renderTree indent loops tree = .ok output) :
    Text.Balanced output.lines.flatten := by
  induction tree generalizing indent loops output with
  | nothing =>
    cases rendered
    exact .empty
  | block place stored body next bodyHypothesis nextHypothesis =>
    rw [Tree.nodes, List.forall_mem_cons, List.forall_mem_append] at clear
    obtain ⟨own, inner, onward⟩ := clear
    obtain ⟨here, first, rendered⟩ := exists_ok_of_bind rendered
    obtain ⟨after, later, rendered⟩ := exists_ok_of_bind rendered
    cases rendered
    have before := balanced_renderBlock own first fun _ _ _ within => bodyHypothesis inner within
    rw [lines_append, List.flatten_append]
    exact before.append (nextHypothesis onward later)

/-- What a script contributes: the rendering of the tree behind its root. -/
def Contribution (program : Program) (root : Datum) (code : Text) : Prop :=
  ∃ tree output, Unfolds program root tree ∧ renderTree 0 0 tree = .ok output ∧
    code = output.lines.flatten

/-- A rendered forest is what its scripts contribute, one after the other. No script writes
into another, so the section of the scripts can be cut between them. -/
theorem contributions_of_rendered {program : Program} {roots : List Datum} {trees : List Tree}
    {output : Output} (unfold : List.Forall₂ (Unfolds program) roots trees)
    (rendered : renderForest trees = .ok output) :
    ∃ codes, List.Forall₂ (Contribution program) roots codes ∧
      output.lines.flatten = codes.flatten := by
  induction unfold generalizing output with
  | nil =>
    cases rendered
    exact ⟨[], .nil, rfl⟩
  | cons unfolds _ inductionHypothesis =>
    obtain ⟨here, first, rendered⟩ := exists_ok_of_bind rendered
    obtain ⟨after, later, rendered⟩ := exists_ok_of_bind rendered
    cases rendered
    obtain ⟨codes, contributed, same⟩ := inductionHypothesis later
    refine ⟨here.lines.flatten :: codes, .cons ⟨_, here, unfolds, first, rfl⟩ contributed, ?_⟩
    rw [lines_append, List.flatten_append, same, List.flatten_cons]

/-- What a script of a program without brackets of its own contributes is balanced, because
the nodes of its tree are blocks of the program. -/
theorem Contribution.balanced {program : Program} (clear : program.Unbracketed) {root : Datum}
    {code : Text} (contributed : Contribution program root code) : Text.Balanced code := by
  obtain ⟨tree, output, unfolds, rendered, rfl⟩ := contributed
  refine balanced_renderTree (fun node member => ?_) rendered
  exact clear node.2 (List.mem_of_getElem? (unfolds.nodes_stored node member))

/-- If no name and no argument of a program that can be written holds a bracket, the
section of its scripts is balanced, and so is what each single script contributes to it. -/
theorem scripts_balanced {program : Program} (clear : program.Unbracketed) {code : Text}
    (written : (generate program).code = .ok code) :
    ∃ codes, List.Forall₂ (Contribution program) program.scripts codes ∧
      ScriptsSection program codes.flatten ∧ Text.Balanced codes.flatten ∧
      ∀ contribution ∈ codes, Text.Balanced contribution := by
  obtain ⟨trees, output, unfold, rendered, scripts, _⟩ :=
    scriptsSection_of_sound (sound_of_code written)
  obtain ⟨codes, contributed, same⟩ := contributions_of_rendered unfold rendered
  have each : ∀ contribution ∈ codes, Text.Balanced contribution := by
    intro contribution member
    obtain ⟨root, _, one⟩ := (exists_of_forall₂ contributed).2 contribution member
    exact one.balanced clear
  exact ⟨codes, contributed, same ▸ scripts, balanced_flatten each, each⟩

/-- A handler for a key that is an expression, with a loop and a conditional inside, and
a second script whose event is not known, so that its body is left out. -/
def enclosing : Program where
  blocks := [
    { kind := .event, name := .text "when",
      args := [.text "keyPressed", .expression [.text "A", .text "B"]], body := .int 1 },
    { kind := .control, name := .text "repeat", args := [.expression [.text "n"]], body := .int 2,
      next := .int 4 },
    { kind := .control, name := .text "if", body := .int 3 },
    { kind := .looks, name := .text "say",
      args := [.expression [.text "x", .expression [.text "y"]], .text "t"] },
    { kind := .control, name := .text "wait", args := [.text "t"] },
    { kind := .event, name := .text "when", args := [.text "shaken"], body := .int 0 }]
  scripts := [.int 0, .int 5]

/-- No text of `enclosing` holds a bracket, and it can be written, so both of its scripts
are balanced. -/
theorem scripts_balanced_enclosing :
    enclosing.Unbracketed ∧
      ∃ code first second, (generate enclosing).code = .ok code ∧
        Contribution enclosing (.int 0) first ∧ Contribution enclosing (.int 5) second ∧
        ScriptsSection enclosing (first ++ second) ∧ Text.Balanced (first ++ second) ∧
        Text.Balanced first ∧ Text.Balanced second := by
  have clear : enclosing.Unbracketed := by
    simp only [Program.Unbracketed, enclosing, List.forall_mem_cons]
    refine ⟨⟨by decide, ?_⟩, ⟨by decide, ?_⟩, ⟨by decide, List.forall_mem_nil _⟩, ⟨by decide, ?_⟩,
      ⟨by decide, ?_⟩, ⟨by decide, ?_⟩, List.forall_mem_nil _⟩
    all_goals
      simp only [List.forall_mem_cons, List.not_mem_nil, false_implies, implies_true,
        Argument.unbracketed_text, Argument.unbracketed_expression]
      decide
  have finite : enclosing.Finite := by
    constructor
    · simp [enclosing, Datum.isWritable]
    · simp [enclosing, Argument.Finite.text, Argument.Finite.expression]
    · simp [enclosing, Table.empty]
    · simp [enclosing, Table.empty]
  have follows : enclosing.Follows [.root 0, .root 1]
      [(.root 0, 0), (.body 0, 1), (.body 1, 2), (.body 2, 3), (.next 1, 4), (.root 1, 5)] [] := by
    refine .onto _ 0 _ _ _ rfl (.onto _ 1 _ _ _ rfl (.onto _ 2 _ _ _ rfl (.onto _ 3 _ _ _ rfl ?_)))
    refine .nowhere (.next 3) _ _ _ rfl (.nowhere (.next 2) _ _ _ rfl ?_)
    refine .onto _ 4 _ _ _ rfl ?_
    refine .nowhere (.next 4) _ _ _ rfl (.nowhere (.next 0) _ _ _ rfl ?_)
    exact .onto _ 5 _ _ _ rfl (.nowhere (.next 5) _ _ _ rfl (.here _))
  have linked : enclosing.Clear [0, 1, 2, 3, 4, 5] :=
    ⟨by decide, by simp [Program.InRange, enclosing]⟩
  have written := code_of_sound (generate_of_follows finite follows linked)
  obtain ⟨codes, contributed, scripts, balanced, each⟩ := scripts_balanced clear written
  have roots : enclosing.scripts = [.int 0, .int 5] := rfl
  rw [roots, List.forall₂_cons_left_iff] at contributed
  obtain ⟨first, rest, one, later, rfl⟩ := contributed
  rw [List.forall₂_cons_left_iff] at later
  obtain ⟨second, none, other, later, rfl⟩ := later
  rw [List.forall₂_nil_left_iff] at later
  subst later
  simp only [List.flatten_cons, List.flatten_nil, List.append_nil] at scripts balanced
  exact ⟨clear, _, first, second, written, one, other, scripts, balanced, each _ (by simp),
    each _ (by simp)⟩

end JavaScript

end SpriteScript
