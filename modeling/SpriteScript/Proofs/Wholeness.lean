import SpriteScript.Proofs.Escaping
import SpriteScript.Proofs.Numerals
import SpriteScript.Proofs.Provenance
import SpriteScript.Proofs.Relexing

/-!
# The code of a whole source is whole

The characters of generated code are those of fixed texts, of numbers and of the source,
as they stand, escaped or in lower case. Lower case turns no character into half of a
pair. So half of a surrogate pair stands in the code on its own only if one stands in the
source.

The property is carried from the tokens to the program, from the program to the lines of
each block, and from there through the agenda to the code. What the lines of a block show
is taken from the list of the ways of writing it, so this module does not follow the
functions that write.
-/

namespace SpriteScript

namespace Text

/-- Two texts are whole together exactly if each of them is: wholeness is about single
characters, and a pair is one character here. -/
@[simp]
theorem whole_append (first second : Text) : Whole (first ++ second) ↔ Whole first ∧ Whole second :=
  List.forall_mem_append

/-- The fixed texts of the program are whole, since no character of a string is half of a
pair. -/
@[simp]
theorem whole_ofString (string : String) : Whole (ofString string) :=
  whole_ofChars string.toList

/-- A text with no other characters than a whole one is whole, in whatever order they
stand. -/
theorem Whole.mono {text more : Text} (whole : Whole more) (among : text ⊆ more) : Whole text :=
  fun c member => whole c (among member)

/-- Whole lines put together are a whole text. -/
theorem whole_flatten {parts : List Text} (each : ∀ part ∈ parts, Whole part) :
    Whole parts.flatten := by
  intro c member
  obtain ⟨part, listed, held⟩ := List.mem_flatten.mp member
  exact each part listed c held

/-- A whole text stays whole if each of its characters is replaced by a whole text. That is
asked for whole characters only, since no others occur. -/
theorem whole_flatMap {text : Text} {change : CodePoint → Text} (whole : Whole text)
    (each : ∀ c, c.isHalf = false → Whole (change c)) : Whole (text.flatMap change) := by
  intro point member
  obtain ⟨c, listed, held⟩ := List.mem_flatMap.mp member
  exact each c (whole c listed) point held

/-- Whole parts joined by a whole separator are a whole text. -/
theorem whole_joined {separator : Text} {parts : List Text} (between : Whole separator)
    (each : ∀ part ∈ parts, Whole part) : Whole (joined separator parts) :=
  joined_induction (List.forall_mem_nil _)
    (fun first second one other => (whole_append first second).mpr ⟨one, other⟩) between each

/-- Trimming drops characters at both ends and brings none. -/
theorem trim_subset (drops : CodePoint → Bool) (text : Text) : trim drops text ⊆ text := by
  intro c member
  rw [trim, trimEnd, List.mem_reverse] at member
  have kept := List.mem_reverse.mp ((List.dropWhile_suffix drops).subset member)
  exact (List.dropWhile_suffix drops).subset kept

/-- Removing a pattern drops characters and brings none. The induction is on the text, with
any number of characters still to be skipped. -/
theorem removeFrom_subset (pattern : Text) (skip : Nat) (text : Text) :
    removeFrom pattern skip text ⊆ text := by
  induction text generalizing skip with
  | nil => exact List.Subset.refl _
  | cons c rest inductionHypothesis =>
    cases skip with
    | succ more =>
      rw [removeFrom]
      exact List.subset_cons_of_subset c (inductionHypothesis more)
    | zero =>
      rw [removeFrom]
      split
      · exact List.subset_cons_of_subset c (inductionHypothesis _)
      · exact List.cons_subset_cons c (inductionHypothesis 0)

/-- A number outside of the range of halves is that of a whole character. -/
theorem isHalf_ofNat {number : Nat} (apart : number < 0xd800 ∨ 0xdfff < number) :
    (CodePoint.ofNat number).isHalf = false := by
  unfold CodePoint.ofNat
  split
  · simp only [CodePoint.isHalf, Bool.and_eq_false_iff, decide_eq_false_iff_not]
    omega
  · rfl

/-- No run of letters is lowered into the range of halves: it ends below the range, or
starts above it. This is checked run by run. -/
theorem loweredRuns_apart : ∀ run ∈ loweredRuns,
    run.last + run.shift < 0xd800 ∨ 0xdfff < run.first + run.shift := by
  decide +kernel

/-- How a character is lowered: not at all, from a capital of the first letters, into the
letter `i` with a dot of its own, or by the shift of the run that it belongs to. -/
inductive Lowered (c : CodePoint) : Text → Prop where
  | same : Lowered c [c]
  | capital (atLeast : 0x41 ≤ c.value) (atMost : c.value ≤ 0x5a) :
      Lowered c [.ofNat (c.value + 0x20)]
  | dotted (is : c.value = 0x130) : Lowered c ['i', .ofNat 0x307]
  | shifted (run : LoweredRun) (listed : run ∈ loweredRuns) (beyond : 0x80 ≤ c.value)
      (atLeast : run.first ≤ c.value) (atMost : c.value ≤ run.last) :
      Lowered c [.ofNat (c.value + run.shift).toNat]

/-- Every character is lowered in one of these ways. What lower case keeps is proved from
them, so the order in which the cases are tried does not matter elsewhere. -/
theorem lowered_lowerPoint (c : CodePoint) : Lowered c (lowerPoint c) := by
  unfold lowerPoint
  split
  · rename_i capital
    simp only [Bool.and_eq_true, decide_eq_true_eq] at capital
    exact .capital capital.1 capital.2
  · split
    · exact .same
    · rename_i beyond
      split
      · rename_i dotted
        exact .dotted (beq_iff_eq.mp dotted)
      · split
        · rename_i run found
          have covered := List.find?_some found
          simp only [LoweredRun.covers, Bool.and_eq_true, decide_eq_true_eq] at covered
          exact .shifted run (List.mem_of_find?_eq_some found) (Nat.not_lt.mp beyond)
            covered.1.1 covered.1.2
        · exact .same

/-- A whole character is lowered to whole characters. Only the shift of a run could lead
into the range of halves, and none does. -/
theorem whole_lowerPoint {c : CodePoint} (whole : c.isHalf = false) : Whole (lowerPoint c) := by
  have lowered := lowered_lowerPoint c
  generalize lowerPoint c = written at lowered ⊢
  cases lowered with
  | same => simpa [Whole] using whole
  | capital _ atMost => exact List.forall_mem_singleton.mpr (isHalf_ofNat (.inl (by omega)))
  | dotted => exact List.forall_mem_cons.mpr ⟨rfl, List.forall_mem_singleton.mpr rfl⟩
  | shifted run listed _ atLeast atMost =>
    have apart := loweredRuns_apart run listed
    exact List.forall_mem_singleton.mpr (isHalf_ofNat (by omega))

/-- A whole text is lowered to a whole text, whatever stands before it. The text before
decides only which of two letters a sigma becomes, and both are whole. -/
theorem whole_lowerAfter {text : Text} (before : Text) (whole : Whole text) :
    Whole (lowerAfter before text) := by
  induction text generalizing before with
  | nil => exact List.forall_mem_nil _
  | cons c rest inductionHypothesis =>
    obtain ⟨here, later⟩ := List.forall_mem_cons.mp whole
    rw [lowerAfter, whole_append]
    refine ⟨?_, inductionHypothesis _ later⟩
    split
    · split <;> exact List.forall_mem_singleton.mpr rfl
    · exact whole_lowerPoint here

/-- The digits of an escape are whole, as all digits are. -/
theorem whole_hexDigits (width number : Nat) : Whole (hexDigits width number) :=
  hexDigits_each (by decide) width number

end Text

namespace Json

open SpriteScript.Text

/-- A whole character is written as itself or by an escape, and escapes are whole. Without
the restriction to the first characters no pair is split. -/
theorem whole_writtenPoint {c : CodePoint} (whole : c.isHalf = false) :
    Whole (writtenPoint false c) := by
  have escaped := escaped_writtenPoint false c
  generalize writtenPoint false c = written at escaped ⊢
  cases escaped with
  | letter => exact whole_ofChars ['\\', _]
  | control =>
    rw [unitEscape, whole_append]
    exact ⟨whole_ofString _, whole_hexDigits _ _⟩
  | beyond restricted => cases restricted
  | plain => simpa [Whole] using whole

/-- A whole text is written as a whole literal, quotes included. -/
theorem whole_writtenText {text : Text} (whole : Whole text) : Whole (writtenText false text) := by
  rw [writtenText, whole_append, whole_append]
  exact ⟨⟨whole_ofString _, whole_flatMap whole fun c => whole_writtenPoint⟩, whole_ofString _⟩

end Json

/-- An argument made of numbers, whole texts and expressions of these. Numbers are written
by digits and signs, so nothing is asked of them. -/
inductive Argument.Whole : Argument → Prop where
  | number (value : Float) : Whole (.number value)
  | text (value : Text) (whole : value.Whole) : Whole (.text value)
  | expression (parts : List Argument) (each : ∀ part ∈ parts, Whole part) :
      Whole (.expression parts)

/-- An initial value that is a number or a whole text. Data of another kind are not among
the values of a parsed program. -/
inductive Value.Whole : Value → Prop where
  | number (value : Float) : Whole (.number value)
  | text (content : Text) (whole : content.Whole) : Whole (.text (.text content))

/-- A block with a keyword for its name and whole arguments. The name may be shown in a
comment, and words of keywords are whole. -/
structure Block.Whole (block : Block) : Prop where
  named : ∃ keyword : Keyword, block.name = .text keyword.word
  arguments : ∀ argument ∈ block.args, argument.Whole

/-- A program of whole blocks, names and initial values: all that its code can show. -/
structure Program.Whole (program : Program) : Prop where
  blocks : ∀ block ∈ program.blocks, block.Whole
  scalars : ∀ entry ∈ program.variableTable.entries, entry.1.Whole ∧ entry.2.Whole
  lists : ∀ entry ∈ program.listTable.entries, entry.1.Whole ∧ ∀ value ∈ entry.2, value.Whole

/-- The text of a number is whole, because it consists of characters of a string. -/
theorem Decimal.Spelled.whole {text : Text} (spelled : Spelled text) : text.Whole := by
  obtain ⟨chars, _, rfl⟩ := spelled
  exact Text.whole_ofChars chars

namespace JavaScript

open SpriteScript.Text

/-- Parts that each have whole code only have whole code together. -/
theorem whole_argumentCodes {parts : List Argument} {codes : List Text}
    (each : ∀ part ∈ parts, ∀ code, argumentCode part = .ok code → Whole code)
    (written : argumentCodes parts = .ok codes) : ∀ code ∈ codes, Whole code := by
  rw [argumentCodes_eq_mapM] at written
  intro code member
  obtain ⟨part, listed, here⟩ := mem_of_mapM_ok written code member
  exact each part listed code here

/-- The code of a whole argument is whole. The induction is on the argument: an expression
adds parentheses and blanks around the code of its parts. -/
theorem whole_argumentCode {argument : Argument} (whole : argument.Whole) {code : Text}
    (written : argumentCode argument = .ok code) : Whole code := by
  induction whole generalizing code with
  | number value => exact (spelled_numberCode written).whole
  | text value whole =>
    cases written
    exact whole
  | expression parts _ inductionHypothesis =>
    have written : (argumentCodes parts >>= fun codes => _) = .ok code := written
    obtain ⟨codes, each, written⟩ := exists_ok_of_bind written
    cases written
    have inside :=
      whole_argumentCodes (fun part member code => @inductionHypothesis part member code) each
    simp [whole_joined (whole_ofString " ") inside]

/-- A whole argument is whole where it stands for a name. A text loses the quotes at its
ends there, and gains nothing. -/
theorem whole_nameCode {argument : Argument} (whole : argument.Whole) {name : Text}
    (named : nameCode argument = .ok name) : Whole name := by
  cases whole with
  | number value => exact whole_argumentCode (.number value) named
  | text value whole =>
    cases named
    exact whole.mono (trim_subset _ value)
  | expression parts each => exact whole_argumentCode (.expression parts each) named

/-- The code of a whole value is whole: a number is spelled, and a text is a literal. -/
theorem whole_valueCode {value : Value} (whole : value.Whole) {code : Text}
    (written : valueCode value = .ok code) : Whole code := by
  cases whole with
  | number value => exact (spelled_numberCode written).whole
  | text content whole =>
    cases written
    exact Json.whole_writtenText whole

/-- The lines of a fragment are whole, those before its body and those after it. -/
def Fragment.Whole (fragment : Fragment) : Prop :=
  ∀ line ∈ fragment.opening ++ fragment.closing, Text.Whole line

/-- Blanks in front of a whole line leave it whole. -/
theorem whole_indented {code : Text} (indent : Nat) (whole : Text.Whole code) :
    Text.Whole (indented indent code) := by
  rw [indented, whole_append]
  refine ⟨?_, whole⟩
  intro c member
  rw [List.eq_of_mem_replicate member]
  rfl

/-- A fragment of one line is whole if the code of the line is. -/
theorem Fragment.whole_line (scope : Scope) {code : Text} (warnings : List Warning)
    (whole : Text.Whole code) : (Fragment.line scope code warnings).Whole := by
  refine List.forall_mem_singleton.mpr (whole_indented _ ?_)
  rw [whole_append]
  exact ⟨whole, whole_ofString _⟩

/-- A fragment of one line before a body and one after it is whole if both lines are. Loops
and conditionals have this shape. -/
theorem Fragment.whole_around (indent : Nat) {before after : Text} (body : Option Scope)
    (warnings : List Warning) (wholeBefore : Text.Whole before) (wholeAfter : Text.Whole after) :
    Fragment.Whole { opening := [indented indent before], body := body,
                     closing := [indented indent after], warnings := warnings } :=
  List.forall_mem_cons.mpr ⟨whole_indented indent wholeBefore,
    List.forall_mem_singleton.mpr (whole_indented indent wholeAfter)⟩

/-- The argument at a place is whole. If there is none, a fixed word stands for it. -/
theorem whole_argumentAt {block : Block} (whole : ∀ argument ∈ block.args, argument.Whole)
    {index : Nat} {code : Text} {warnings : List Warning}
    (written : argumentAt block index = .ok (code, warnings)) : Text.Whole code := by
  unfold argumentAt at written
  split at written
  · rename_i argument given
    obtain ⟨own, here, written⟩ := exists_ok_of_bind written
    cases written
    exact whole_argumentCode (whole argument (List.mem_of_getElem? given)) here
  · cases written
    exact whole_ofString _

/-- The key of an event is whole: it is what is left of the event without the word for a
key press, or the argument after it. -/
theorem whole_keyOf {event key : Text} {args : List Argument} (wholeEvent : Text.Whole event)
    (whole : ∀ argument ∈ args, argument.Whole) (named : keyOf event args = .ok key) :
    Text.Whole key := by
  unfold keyOf at named
  split at named
  · exact whole_nameCode (whole _ (by simp)) named
  · cases named
    exact wholeEvent.mono (removeFrom_subset _ _ event)

/-- The lines of a handler for the start are fixed, and whole at every depth. -/
theorem whole_startHandler (scope : Scope) : (startHandler scope).Whole := by
  simp only [Fragment.Whole, startHandler, List.cons_append, List.nil_append, List.forall_mem_cons]
  exact ⟨whole_indented _ (whole_ofString _), whole_indented _ (whole_ofString _),
    whole_indented _ (whole_ofString _), List.forall_mem_nil _⟩

/-- The lines of a handler for a key show the key twice, once as it is and once in lower
case as a literal. Both are whole if the key is. -/
theorem whole_keyHandler (scope : Scope) {key : Text} (whole : Text.Whole key) :
    (keyHandler scope key).Whole := by
  have lowered : Text.Whole (Json.writtenText false (Text.lower key)) :=
    Json.whole_writtenText (whole_lowerAfter [] whole)
  simp only [Fragment.Whole, keyHandler, List.cons_append, List.nil_append, List.forall_mem_cons]
  exact ⟨whole_indented _ (by simp [whole]), whole_indented _ (whole_ofString _),
    whole_indented _ (by simp [lowered]), whole_indented _ (whole_ofString _),
    whole_indented _ (whole_ofString _), List.forall_mem_nil _⟩

/-- The line of a statement of a whole block is whole. Each case is a fixed text around
the code of arguments of the block, or around its name. -/
theorem Statement.whole {block : Block} {code : Text} (statement : Statement block code)
    (whole : block.Whole) : Text.Whole code := by
  obtain ⟨⟨keyword, named⟩, arguments⟩ := whole
  have word : Text.Whole block.name.shown := by
    rw [named]
    cases keyword <;> exact whole_ofString _
  cases statement with
  | move steps warnings first => simp [sprite, whole_argumentAt arguments first]
  | say message warnings first => simp [sprite, whole_argumentAt arguments first]
  | sayFor message seconds warnings time first given second =>
    have wholeSeconds := whole_argumentCode (arguments time given) second
    simp [sprite, whole_argumentAt arguments first, wholeSeconds]
  | wait seconds warnings first => simp [whole_argumentAt arguments first]
  | assign operator name value warnings target known given first second =>
    have wholeOperator : Text.Whole operator := by rcases known with rfl | rfl <;> simp
    have wholeName := whole_nameCode (arguments target given) first
    simp [wholeName, wholeOperator, whole_argumentAt arguments second]
  | nameless => simp [word]
  | expression code whole => simp [whole_argumentCode (.expression block.args arguments) whole]
  | unknownEvent code first =>
    have wholeEvent := event_of_each (.text _ (whole_ofString "")) arguments
    simp [whole_argumentCode wholeEvent first]
  | unsupported => simp [word]

/-- The lines of a whole block are whole, in whichever way it is written. If writing it
failed, it has no lines. -/
theorem whole_fragment (scope : Scope) {block : Block} (whole : block.Whole) :
    (fragment scope block).Whole := by
  cases writing_of_block block with
  | failed warnings error fault made =>
    rw [made]
    exact List.forall_mem_nil _
  | line code warnings statement form made =>
    rw [made]
    exact Fragment.whole_line scope warnings (statement.whole whole)
  | start form made =>
    rw [made]
    exact whole_startHandler scope
  | key event key form first named made =>
    rw [made]
    have wholeEvent := event_of_each (.text _ (whole_ofString "")) whole.arguments
    rw [first] at wholeEvent
    cases wholeEvent with
    | text _ wholeText => exact whole_keyHandler scope (whole_keyOf wholeText whole.arguments named)
  | loop count warnings form first made =>
    rw [made]
    have counter := (Decimal.spelled_intText scope.loops).whole
    have wholeCount := whole_argumentAt whole.arguments first
    exact Fragment.whole_around _ _ warnings (by simp [counter, wholeCount]) (whole_ofString _)
  | conditional condition warnings form first made =>
    rw [made]
    have wholeCondition := whole_argumentAt whole.arguments first
    exact Fragment.whole_around _ _ warnings (by simp [wholeCondition]) (whole_ofString _)

/-- The declaration of a variable with a whole name and value is whole. The name stands in
it as it is. -/
theorem whole_variableLine {name line : Text} {value : Value} (wholeName : Text.Whole name)
    (whole : value.Whole) (written : variableLine name value = .ok line) : Text.Whole line := by
  obtain ⟨code, initial, written⟩ := exists_ok_of_bind written
  cases written
  simp [wholeName, whole_valueCode whole initial]

/-- Whole values have whole code, each for itself. -/
theorem whole_valueCodes {values : List Value} {codes : List Text}
    (whole : ∀ value ∈ values, value.Whole) (written : values.mapM valueCode = .ok codes) :
    ∀ code ∈ codes, Text.Whole code := by
  intro code member
  obtain ⟨value, listed, here⟩ := mem_of_mapM_ok written code member
  exact whole_valueCode (whole value listed) here

/-- The declaration of a list with a whole name and values is whole. -/
theorem whole_listLine {name line : Text} {values : List Value} (wholeName : Text.Whole name)
    (whole : ∀ value ∈ values, value.Whole) (written : listLine name values = .ok line) :
    Text.Whole line := by
  obtain ⟨codes, each, written⟩ := exists_ok_of_bind written
  cases written
  simp [wholeName, whole_joined (whole_ofString ", ") (whole_valueCodes whole each)]

/-- A line among the tasks of a block is one of its lines. -/
theorem Fragment.line_of_task {fragment : Fragment} {body : Datum} {line : Text}
    (listed : .write (.ok line) ∈ fragment.tasks body) :
    line ∈ fragment.opening ++ fragment.closing := by
  simpa [Fragment.tasks] using listed

/-- What holds of the lines on an agenda and of the lines of every stored block holds of
every line that is written. The induction is along the writing: a line comes from the
agenda as it was, or from the tasks of a block that was arrived at, and blocks are
arrived at only if they are stored. -/
theorem emit_each {holds : Text → Prop} {writer : Writer} {program : Program}
    (stored : ∀ block ∈ program.blocks, ∀ link scope,
      ∀ line ∈ (writer link scope block).opening ++ (writer link scope block).closing, holds line)
    (agenda : List Task) (emission : Emission)
    (due : ∀ line, .write (.ok line) ∈ agenda → holds line)
    (earlier : ∀ line ∈ emission.lines, holds line) :
    ∀ line ∈ (emit writer program agenda emission).lines, holds line := by
  fun_induction emit writer program agenda emission with
  | case1 emission => exact earlier
  | case2 emission line rest inductionHypothesis =>
    refine inductionHypothesis (fun other listed => due other (List.mem_cons_of_mem _ listed)) ?_
    rw [List.forall_mem_append, List.forall_mem_singleton]
    exact ⟨earlier, due line List.mem_cons_self⟩
  | case3 emission error rest => exact earlier
  | case4 emission scope link rest finished inductionHypothesis =>
    refine inductionHypothesis ?_ earlier
    exact fun other listed => due other (List.mem_cons_of_mem _ listed)
  | case5 emission scope link rest error visited stopped => exact earlier
  | case6 emission scope link rest block visited arrived fragment reached error failed =>
    exact earlier
  | case7 emission scope link rest block visited arrived fragment reached sound
      inductionHypothesis =>
    refine inductionHypothesis ?_ earlier
    intro line listed
    obtain ⟨place, _, found, _, _⟩ := Program.arrived_cases arrived
    -- After the lines of the block comes the link onward, which is no line.
    rcases List.mem_append.mp listed with own | later
    · exact stored block (List.mem_of_getElem? found) link scope line (Fragment.line_of_task own)
    · rcases List.mem_cons.mp later with onward | after
      · cases onward
      · exact due line (List.mem_cons_of_mem _ after)

/-- The code of a whole program is whole. Its lines are those that the agenda starts with,
headings and declarations, and the lines of its blocks; in front of them stands a fixed
text. -/
theorem whole_generate {program : Program} (whole : program.Whole) {code : Text}
    (written : (generate program).code = .ok code) : Text.Whole code := by
  have due : ∀ line, .write (.ok line) ∈ agenda program → Text.Whole line := by
    intro line listed
    simp only [agenda, List.mem_append, List.mem_map, List.mem_cons, List.not_mem_nil, or_false,
      Task.write.injEq, Except.ok.injEq, Prod.exists, reduceCtorEq, and_false, exists_false]
      at listed
    rcases listed with (((rfl | ⟨name, value, declared, same⟩) | rfl | rfl) |
      ⟨name, values, declared, same⟩) | rfl | rfl
    · exact whole_ofString _
    · obtain ⟨wholeName, wholeValue⟩ := whole.scalars _ declared
      exact whole_variableLine wholeName wholeValue same
    · exact whole_ofString _
    · exact whole_ofString _
    · obtain ⟨wholeName, wholeValues⟩ := whole.lists _ declared
      exact whole_listLine wholeName wholeValues same
    · exact whole_ofString _
    · exact whole_ofString _
  have stored := fun block member (_ : Datum) scope =>
    whole_fragment scope (whole.blocks block member)
  have lines := emit_each stored (agenda program) {} due (List.forall_mem_nil _)
  have same := Except.ok.inj ((code_of_sound (sound_of_code written)).symm.trans written)
  rw [← same, whole_append]
  exact ⟨whole_ofString _, whole_flatten lines⟩

end JavaScript

/-- What is made of whole parts is whole. An argument that is no expression is its own
only part. -/
theorem Argument.whole_of_parts {argument : Argument} (each : ∀ part ∈ argument.parts, part.Whole) :
    argument.Whole := by
  cases argument with
  | expression parts => exact .expression parts each
  | _ => exact each _ List.mem_cons_self

/-- A whole token is a whole argument, whether it denotes a number or stands for itself. -/
theorem Literal.whole_argument {token : Text} (whole : token.Whole) :
    (Literal.argument token).Whole := by
  unfold Literal.argument
  split
  · exact .number _
  · exact .text token whole

/-- A whole token is a whole value, also without the quotes at its ends. -/
theorem Literal.whole_value {token : Text} (whole : token.Whole) : (Literal.value token).Whole := by
  unfold Literal.value
  split
  · exact .number _
  · exact .text _ (whole.mono (Text.trim_subset _ token))

/-- The delimiters that an expression puts into its parts are whole. -/
theorem whole_delimiter {delimiter : Text} (listed : delimiter ∈ delimiters) : delimiter.Whole := by
  have each : ∀ delimiter ∈ delimiters, ∀ c ∈ delimiter, c.isHalf = false := by decide
  exact each delimiter listed

/-- A program parsed from whole tokens is whole. Its names are tokens, its arguments and
values are what tokens denote, or delimiters or zero, and its blocks are named by
keywords. -/
theorem Program.whole_parse {tokens : List Text} (each : ∀ token ∈ tokens, token.Whole) :
    (parse tokens).Whole := by
  have drawn := drawnFrom_parse tokens
  have values : ∀ value ∈ tokens.map Literal.value, value.Whole :=
    List.forall_mem_map.mpr fun token listed => Literal.whole_value (each token listed)
  obtain ⟨scalars, lists⟩ := valued_parse tokens
  constructor
  · intro block member
    obtain ⟨name, keyword, named, read, _⟩ := (preordered_parse tokens).families block member
    refine ⟨⟨keyword, ?_⟩, fun argument given => Argument.whole_of_parts fun part held => ?_⟩
    · rw [named, Keyword.word_of_ofToken? read]
    · rcases drawn.part_mem member given held with ⟨token, listed, rfl⟩ | ⟨delimiter, listed, rfl⟩
      · exact Literal.whole_argument (each token listed)
      · exact .text delimiter (whole_delimiter listed)
  · intro entry declared
    refine ⟨each _ (drawn.scalars entry declared), ?_⟩
    rcases scalars entry declared with initial | given
    · rw [initial]
      exact .number 0
    · exact values _ given
  · intro entry declared
    refine ⟨each _ (drawn.lists entry declared), fun value given => ?_⟩
    exact values value (lists entry declared value given)

/-- A token consists of characters of the text that was cut, whatever the gaps around
it. -/
theorem Segmentation.token_subset {cut : Segmentation} {token : Text}
    (listed : token ∈ cut.tokens) : token ⊆ cut.text := by
  induction cut with
  | last gap => cases listed
  | next gap first later inductionHypothesis =>
    rw [text]
    rcases List.mem_cons.mp listed with rfl | after
    · exact List.subset_append_of_subset_right gap (List.subset_append_left token later.text)
    · exact List.subset_append_of_subset_right gap
        (List.subset_append_of_subset_right first (inductionHypothesis after))

/-- A token of a source consists of characters of the source, for the tokens are a cut of
the trimmed source. -/
theorem tokenize_subset {source token : Text} (listed : token ∈ tokenize source) :
    token ⊆ source := by
  obtain ⟨cut, proper, whole⟩ := Segmentation.exists_proper (Text.trim Text.isBlank source)
  rw [(tokenize_of_proper proper whole).1] at listed
  have among : token ⊆ Text.trim Text.isBlank source := whole ▸ Segmentation.token_subset listed
  exact List.Subset.trans among (Text.trim_subset _ source)

/-- A whole source compiles to whole code. In particular its code can be encoded, which a
half of a pair would prevent. -/
theorem compile_whole {source : Text} (whole : source.Whole) :
    ∃ code : Text, code.Whole ∧ (compile (.text source)).result.output = .ok code := by
  obtain ⟨code, written, output⟩ := compile_code source
  have each : ∀ token ∈ tokenize source, token.Whole :=
    fun token listed => whole.mono (tokenize_subset listed)
  exact ⟨code, JavaScript.whole_generate (Program.whole_parse each) written, output⟩

end SpriteScript
