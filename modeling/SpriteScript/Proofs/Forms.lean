import SpriteScript.JavaScript.Emission
import SpriteScript.Proofs.Traversal

/-!
# The forms in which blocks are written

A block is written as a handler, a loop, a conditional or a statement. The first
three stand around their body; a statement is lines alone. The form of a block
says all about the structure of its code: what a block contributes as a statement
is the same at every place, apart from the blanks in front of its lines.

What a block contributes is taken apart here once. `writing_of_block` lists the
ways of writing a block with the arguments that their lines show. Whatever is to
hold of all code, that it is written, that its characters are whole or that its
brackets match, is proved by going through that list and nowhere through the
functions that write.
-/

namespace SpriteScript.JavaScript

open SpriteScript

/-- The forms of blocks: a handler for the start of the program, one for the key
that an event names, a loop, a conditional, or lines without a body. -/
inductive Form where
  | start
  | key (event : Text)
  | loop
  | conditional
  | statement

/-- The form of an event. Only a text can be known, and the start of the program is tried
before the keys. -/
def eventForm : Argument → Form
  | .text event =>
    if event = "flagClicked" then .start
    else if Text.occursIn keyWord event then .key event
    else .statement
  | _ => .statement

/-- The form of a block, by its family, its name and, for an event, its first
argument. -/
def blockForm (block : Block) : Form :=
  if block.kind = .event ∧ block.name = .text "when" then
    eventForm block.event
  else if block.kind = .control ∧ block.name = .text "repeat" then .loop
  else if block.kind = .control ∧ block.name = .text "if" then .conditional
  else .statement

/-- An event is written as a handler exactly when it is known. Otherwise its block is a
statement, as its body is not written. -/
theorem eventForm_statement (event : Argument) :
    eventForm event = .statement ↔ ¬ event.IsKnownEvent := by
  cases event with
  | text event =>
    rw [eventForm, Argument.IsKnownEvent, ← Text.occursIn_iff]
    split
    · simp [*]
    · split <;> simp [*]
  | _ => exact ⟨fun _ => id, fun _ => rfl⟩

/-- The statements are the blocks whose body is not written. -/
theorem blockForm_statement (block : Block) :
    blockForm block = .statement ↔ ¬ block.EntersBody := by
  unfold blockForm Block.EntersBody
  split
  · rename_i event
    rw [eventForm_statement]
    simp [event]
  · rename_i notEvent
    split
    · rename_i loop
      simp [loop]
    · split
      · rename_i conditional
        simp [conditional]
      · simp_all

/-- A block that is named by a keyword is named by no other, because keywords are told
apart by their words. -/
theorem named_iff {block : Block} {keyword : Keyword} (named : block.name = .text keyword.word)
    (other : Keyword) : block.name = .text other.word ↔ keyword = other := by
  rw [named]
  exact ⟨fun equal => Keyword.eq_of_word (Datum.text.inj equal), fun equal => equal ▸ rfl⟩

/-- A block that is named by no keyword has no body to write. -/
theorem not_entersBody {block : Block}
    (unnamed : ∀ keyword : Keyword, block.name ≠ .text keyword.word) : ¬ block.EntersBody := by
  rintro (⟨_, named, _⟩ | ⟨_, named | named⟩)
  · exact unnamed .whenEvent named
  · exact unnamed .repeatTimes named
  · exact unnamed .ifTrue named

/-- The form of a block that is named by a keyword. -/
theorem blockForm_keyword {block : Block} {keyword : Keyword}
    (named : block.name = .text keyword.word) :
    blockForm block =
      match block.kind, keyword with
      | .event, .whenEvent => eventForm block.event
      | .control, .repeatTimes => .loop
      | .control, .ifTrue => .conditional
      | _, _ => .statement := by
  have event : block.name = .text "when" ↔ keyword = .whenEvent := named_iff named .whenEvent
  have loop : block.name = .text "repeat" ↔ keyword = .repeatTimes := named_iff named .repeatTimes
  have conditional : block.name = .text "if" ↔ keyword = .ifTrue := named_iff named .ifTrue
  simp only [blockForm, event, loop, conditional]
  cases block.kind <;> cases keyword <;> rfl

/-- The code of a block that is named by a keyword. Where the family has no use for the
keyword, the block is not supported. -/
theorem fragment_keyword (scope : Scope) {block : Block} {keyword : Keyword}
    (named : block.name = .text keyword.word) :
    fragment scope block =
      (keywordFragment? scope block block.kind keyword).getD (unsupportedBlock scope block) := by
  have other : keyword.word ≠ expressionName := by cases keyword <;> decide
  rw [fragment, named]
  simp [other, keyword.ofToken?_word]

/-- A keyword is of use to its own family only. -/
theorem keywordFragment?_foreign (scope : Scope) {block : Block} {kind : Kind} {keyword : Keyword}
    (foreign : kind ≠ keyword.kind) : keywordFragment? scope block kind keyword = none := by
  cases kind <;> cases keyword <;> first | rfl | exact absurd rfl foreign

/-- An event without a handler leaves a comment. -/
theorem eventFragment_unknown (scope : Scope) {block : Block}
    (form : eventForm block.event = .statement) :
    eventFragment scope block = unsupportedEvent scope block.event := by
  unfold eventFragment
  cases event : block.event with
  | text event =>
    rw [event, eventForm] at form
    dsimp only
    split at form
    · cases form
    · rename_i notStart
      split at form
      · cases form
      · rename_i notKey
        rw [if_neg notStart, if_neg notKey]
  | number value => rfl
  | expression parts => rfl
  | other datum => rfl

/-- What a form says about the code of a block. Of a statement it says nothing: its lines
differ from one keyword to the next, and `Writing` lists them. -/
def Form.Describes (form : Form) (scope : Scope) (block : Block) : Prop :=
  match form with
  | .start => fragment scope block = startHandler scope
  | .key event =>
    fragment scope block = .ofExcept (do return keyHandler scope (← keyOf event block.args))
  | .loop => fragment scope block = .ofExcept (repeatFragment scope block)
  | .conditional => fragment scope block = .ofExcept (ifFragment scope block)
  | .statement => True

/-- The form of an event describes the code of its block. -/
theorem eventForm_describes (scope : Scope) {block : Block}
    (code : fragment scope block = eventFragment scope block) :
    (eventForm block.event).Describes scope block := by
  unfold eventFragment at code
  cases given : block.event with
  | text event =>
    rw [given] at code
    rw [eventForm]
    by_cases flag : event = "flagClicked"
    · rw [if_pos flag]
      exact code.trans (if_pos flag)
    · rw [if_neg flag]
      by_cases key : Text.occursIn keyWord event = true
      · rw [if_pos key]
        exact code.trans ((if_neg flag).trans (if_pos key))
      · rw [if_neg key]
        trivial
  | _ => trivial

/-- The form of a block describes its code. -/
theorem blockForm_describes (scope : Scope) (block : Block) :
    (blockForm block).Describes scope block := by
  by_cases keyworded : ∃ keyword : Keyword, block.name = .text keyword.word
  · obtain ⟨keyword, named⟩ := keyworded
    have code := fragment_keyword scope named
    rw [blockForm_keyword named]
    cases family : block.kind with
    | event =>
      rw [family] at code
      cases keyword with
      | whenEvent => exact eventForm_describes scope code
      | _ => trivial
    | control =>
      rw [family] at code
      cases keyword with
      | repeatTimes => exact code
      | ifTrue => exact code
      | _ => trivial
    | _ => trivial
  · have leaves := not_entersBody fun keyword named => keyworded ⟨keyword, named⟩
    rw [(blockForm_statement block).mpr leaves]
    trivial

/-- Arguments are written one by one. The library's facts about such passes hold of them,
then. -/
theorem argumentCodes_eq_mapM (parts : List Argument) :
    argumentCodes parts = parts.mapM argumentCode := by
  induction parts with
  | nil => rfl
  | cons part rest inductionHypothesis =>
    rw [argumentCodes, inductionHypothesis, List.mapM_cons]

/-- What holds of the arguments and of the empty text holds of the event. The empty text
stands for an event that is missing. -/
theorem event_of_each {holds : Argument → Prop} {block : Block} (empty : holds (.text ""))
    (each : ∀ argument ∈ block.args, holds argument) : holds block.event := by
  rw [Block.event]
  cases args : block.args with
  | nil => exact empty
  | cons first rest => exact each first (args ▸ List.mem_cons_self)

/-- The event of a handler for a key is the text that holds the key. -/
theorem event_of_key {block : Block} {event : Text} (form : blockForm block = .key event) :
    block.event = .text event := by
  unfold blockForm at form
  split at form
  · cases given : block.event with
    | text other =>
      rw [given, eventForm] at form
      split at form
      · cases form
      · split at form
        · cases form
          rfl
        · cases form
    | _ =>
      rw [given] at form
      cases form
  · split at form
    · cases form
    · split at form <;> cases form

/-- Arguments that each have code have code together. -/
theorem argumentCodes_of_each {parts : List Argument}
    (each : ∀ part ∈ parts, ∃ code, argumentCode part = .ok code) :
    ∃ codes, argumentCodes parts = .ok codes := by
  induction parts with
  | nil => exact ⟨[], rfl⟩
  | cons part rest inductionHypothesis =>
    obtain ⟨code, first⟩ := each part List.mem_cons_self
    obtain ⟨codes, later⟩ :=
      inductionHypothesis fun other member => each other (List.mem_cons_of_mem part member)
    refine ⟨code :: codes, ?_⟩
    rw [argumentCodes, first, later]
    rfl

mutual

/-- An argument that has code can be written: an integer in it that is too long would
have been refused with the argument. -/
theorem isWritable_of_argumentCode : {argument : Argument} → {code : Text} →
    argumentCode argument = .ok code → argument.isWritable = true
  | .number _, _, _ => rfl
  | .text _, _, _ => rfl
  | .other _, _, written => (eq_of_datumCode written).1
  | .expression parts, code, written => by
    have written : (argumentCodes parts >>= fun codes => _) = .ok code := written
    obtain ⟨codes, each, _⟩ := exists_ok_of_bind written
    exact allWritable_of_argumentCodes each

/-- The same for each of several arguments. -/
theorem allWritable_of_argumentCodes : {parts : List Argument} → {codes : List Text} →
    argumentCodes parts = .ok codes → Argument.allWritable parts = true
  | [], _, _ => rfl
  | part :: rest, codes, written => by
    obtain ⟨code, first, written⟩ := exists_ok_of_bind written
    obtain ⟨others, later, _⟩ := exists_ok_of_bind written
    rw [Argument.allWritable, Bool.and_eq_true]
    exact ⟨isWritable_of_argumentCode first, allWritable_of_argumentCodes later⟩

end

/-- The name of a block or one of its arguments has no code. These are the only reasons for
which a block is not written. -/
def Faulty (block : Block) : Prop :=
  block.name.isWritable = false ∨
    ∃ argument ∈ block.args, ∀ code, argumentCode argument ≠ .ok code

/-- The line that a block is written as, with the arguments of the block that it shows. A
comment shows the name of the block or its event. -/
inductive Statement (block : Block) : Text → Prop where
  | move (steps : Text) (warnings : List Warning)
      (first : argumentAt block 0 = .ok (steps, warnings)) :
      Statement block (sprite ++ ".move(" ++ steps ++ ");")
  | say (message : Text) (warnings : List Warning)
      (first : argumentAt block 0 = .ok (message, warnings)) :
      Statement block (sprite ++ ".say(" ++ message ++ ");")
  | sayFor (message seconds : Text) (warnings : List Warning) (time : Argument)
      (first : argumentAt block 0 = .ok (message, warnings)) (given : time ∈ block.args)
      (second : argumentCode time = .ok seconds) :
      Statement block (sprite ++ ".say(" ++ message ++ ", " ++ seconds ++ ");")
  | wait (seconds : Text) (warnings : List Warning)
      (first : argumentAt block 0 = .ok (seconds, warnings)) :
      Statement block
        ("await new Promise(resolve => setTimeout(resolve, " ++ seconds ++ " * 1000));")
  | assign (operator name value : Text) (warnings : List Warning) (target : Argument)
      (known : operator = "=" ∨ operator = "+=") (given : target ∈ block.args)
      (first : nameCode target = .ok name)
      (second : argumentAt block 1 = .ok (value, warnings)) :
      Statement block (name ++ " " ++ operator ++ " " ++ value ++ ";")
  | nameless : Statement block ("// " ++ block.name.shown ++ ": missing variable name")
  | expression (code : Text) (whole : argumentCode (.expression block.args) = .ok code) :
      Statement block (code ++ ";")
  | unknownEvent (code : Text)
      (first : argumentCode block.event = .ok code) :
      Statement block ("// Unsupported event: " ++ code)
  | unsupported : Statement block ("// Unsupported block: " ++ block.name.shown)

/-- The ways of writing a block, each with the form that it belongs to. Apart from how far
the lines are indented, and from the number of a counter, a block is written in the same way
everywhere. -/
inductive Writing (block : Block) : Prop where
  | failed (warnings : List Warning) (error : Error) (fault : Faulty block)
      (made : ∀ scope, fragment scope block = { warnings, failure := some error })
  | line (code : Text) (warnings : List Warning) (statement : Statement block code)
      (form : blockForm block = .statement)
      (made : ∀ scope, fragment scope block = .line scope code warnings)
  | start (form : blockForm block = .start)
      (made : ∀ scope, fragment scope block = startHandler scope)
  | key (event key : Text) (form : blockForm block = .key event)
      (first : block.event = .text event)
      (named : keyOf event block.args = .ok key)
      (made : ∀ scope, fragment scope block = keyHandler scope key)
  | loop (count : Text) (warnings : List Warning) (form : blockForm block = .loop)
      (first : argumentAt block 0 = .ok (count, warnings))
      (made : ∀ scope, fragment scope block = countedLoop scope count warnings)
  | conditional (condition : Text) (warnings : List Warning)
      (form : blockForm block = .conditional)
      (first : argumentAt block 0 = .ok (condition, warnings))
      (made : ∀ scope, fragment scope block = conditional scope condition warnings)

variable {block : Block}

/-- Nothing is wrong with a block exactly if its name can be written and each argument has
code. -/
theorem not_faulty_iff :
    ¬ Faulty block ↔ block.name.isWritable = true ∧
      ∀ argument ∈ block.args, ∃ code, argumentCode argument = .ok code := by
  simp [Faulty]

/-- An argument of a block that is refused is a fault of the block. -/
theorem faulty_of_argument {argument : Argument} {error : Error} (given : argument ∈ block.args)
    (refused : argumentCode argument = .error error) : Faulty block := by
  refine .inr ⟨argument, given, fun code written => ?_⟩
  rw [refused] at written
  cases written

/-- An argument is refused as a name only if it is refused as an argument, since every text
can be a name. -/
theorem faulty_of_nameCode {argument : Argument} {error : Error} (given : argument ∈ block.args)
    (refused : nameCode argument = .error error) : Faulty block := by
  cases argument with
  | text value => cases refused
  | _ => exact faulty_of_argument given refused

/-- The argument at a place is refused only if there is one: a missing argument has a code of
its own. -/
theorem faulty_of_argumentAt {index : Nat} {error : Error}
    (refused : argumentAt block index = .error error) : Faulty block := by
  unfold argumentAt at refused
  split at refused
  · rename_i argument given
    cases written : argumentCode argument with
    | error other => exact faulty_of_argument (List.mem_of_getElem? given) written
    | ok code =>
      rw [written] at refused
      cases refused
  · cases refused

/-- A key is refused only if it is taken from the second argument and refused there. -/
theorem faulty_of_keyOf {event : Text} {error : Error}
    (refused : keyOf event block.args = .error error) : Faulty block := by
  unfold keyOf at refused
  split at refused
  · rename_i args
    exact faulty_of_nameCode (by simp [args]) refused
  · cases refused

/-- An expression is refused only if one of its parts is. -/
theorem faulty_of_expression {error : Error}
    (refused : argumentCode (.expression block.args) = .error error) : Faulty block := by
  by_contra sound
  obtain ⟨codes, written⟩ := argumentCodes_of_each (not_faulty_iff.mp sound).2
  rw [argumentCode, written] at refused
  cases refused

/-- What is written from a result is not written if the result is missing, and otherwise as
the result says. -/
theorem writing_bind {α : Type} {result : Except Error α}
    {write : α → Scope → Except Error Fragment}
    (made : ∀ scope, fragment scope block = .ofExcept (result >>= fun value => write value scope))
    (fault : ∀ error, result = .error error → Faulty block)
    (each : ∀ value, result = .ok value →
      (∀ scope, fragment scope block = .ofExcept (write value scope)) → Writing block) :
    Writing block := by
  cases result with
  | error error => exact .failed [] error (fault error rfl) made
  | ok value => exact each value rfl made

/-- Speaking shows one argument or two. The second is the time for which the message stays,
and it is left out of the call if it is missing. -/
theorem writing_say (form : blockForm block = .statement)
    (made : ∀ scope, fragment scope block = .ofExcept (sayFragment scope block)) :
    Writing block := by
  refine writing_bind made (fun _ => faulty_of_argumentAt) ?_
  rintro ⟨message, warnings⟩ first made
  cases timed : block.args[1]? with
  | none =>
    simp only [timed] at made
    exact .line _ warnings (.say message warnings first) form made
  | some time =>
    simp only [timed] at made
    have given := List.mem_of_getElem? timed
    refine writing_bind made (fun _ => faulty_of_argument given) ?_
    intro seconds second made
    exact .line _ warnings (.sayFor message seconds warnings time first given second) form made

/-- An assignment shows its target and its value, or the name of the block if it has no
target. -/
theorem writing_assign {operator : Text} (known : operator = "=" ∨ operator = "+=")
    (form : blockForm block = .statement)
    (made : ∀ scope, fragment scope block = .ofExcept (assignFragment operator scope block)) :
    Writing block := by
  unfold assignFragment at made
  cases args : block.args with
  | nil =>
    simp only [args] at made
    exact .line _ _ .nameless form made
  | cons target rest =>
    have given : target ∈ block.args := args ▸ List.mem_cons_self
    simp only [args] at made
    refine writing_bind made (fun _ => faulty_of_nameCode given) ?_
    intro name first made
    refine writing_bind made (fun _ => faulty_of_argumentAt) ?_
    rintro ⟨value, warnings⟩ second made
    exact .line _ warnings (.assign operator name value warnings target known given first second)
      form made

/-- An event that is not known is shown in a comment. Without arguments it is empty, and then
nothing can be wrong with it. -/
theorem writing_unknownEvent (form : blockForm block = .statement)
    (made : ∀ scope, fragment scope block =
      unsupportedEvent scope block.event) : Writing block := by
  have fault : (∀ code, argumentCode block.event ≠ .ok code) → Faulty block := by
    intro refused
    by_contra sound
    obtain ⟨code, written⟩ := event_of_each ⟨_, rfl⟩ (not_faulty_iff.mp sound).2
    exact refused code written
  simp only [unsupportedEvent] at made
  by_cases writable : block.event.isWritable = true
  · simp only [if_pos writable] at made
    cases written : argumentCode block.event with
    | ok code =>
      simp only [written] at made
      exact .line _ _ (.unknownEvent code written) form made
    | error error =>
      simp only [written] at made
      refine .failed _ error (fault fun code again => ?_) made
      rw [written] at again
      cases again
  · simp only [if_neg writable] at made
    exact .failed [] .badValue
      (fault fun code written => writable (isWritable_of_argumentCode written)) made

/-- A block that is not supported is shown in a comment by its name. -/
theorem writing_unsupported (form : blockForm block = .statement)
    (made : ∀ scope, fragment scope block = unsupportedBlock scope block) : Writing block := by
  simp only [unsupportedBlock] at made
  by_cases writable : block.name.isWritable = true
  · simp only [if_pos writable] at made
    exact .line _ _ .unsupported form made
  · simp only [if_neg writable] at made
    exact .failed [] .badValue (.inl (by simpa using writable)) made

/-- A block that is named by a keyword and is a statement. The cases are those in which the
keyword belongs to the family; in any other the block is not supported. -/
theorem writing_keyword {keyword : Keyword} (named : block.name = .text keyword.word)
    (form : blockForm block = .statement) : Writing block := by
  have made : ∀ scope, fragment scope block =
      (keywordFragment? scope block block.kind keyword).getD (unsupportedBlock scope block) :=
    fun scope => fragment_keyword scope named
  by_cases family : block.kind = keyword.kind
  · have shape := form
    rw [blockForm_keyword named, family] at shape
    simp only [family] at made
    cases keyword with
    | whenEvent =>
      exact writing_unknownEvent form fun scope =>
        (made scope).trans (eventFragment_unknown scope shape)
    | move =>
      exact writing_bind made (fun _ => faulty_of_argumentAt) fun ⟨steps, warnings⟩ first made =>
        .line _ warnings (.move steps warnings first) form made
    | say => exact writing_say form made
    | wait =>
      exact writing_bind made (fun _ => faulty_of_argumentAt) fun ⟨seconds, warnings⟩ first made =>
        .line _ warnings (.wait seconds warnings first) form made
    | repeatTimes => cases shape
    | ifTrue => cases shape
    | set => exact writing_assign (.inl rfl) form made
    | change => exact writing_assign (.inr rfl) form made
  · apply writing_unsupported form
    intro scope
    rw [made, keywordFragment?_foreign scope family]
    rfl

/-- A block that is named by no keyword is an expression on its own or not supported. -/
theorem writing_unnamed (unnamed : ∀ keyword : Keyword, block.name ≠ .text keyword.word) :
    Writing block := by
  have form := (blockForm_statement block).mpr (not_entersBody unnamed)
  cases called : block.name with
  | text name =>
    by_cases single : block.kind = .operators ∧ name = expressionName
    · have made : ∀ scope, fragment scope block = .ofExcept (expressionFragment scope block) := by
        intro scope
        rw [fragment, called]
        exact if_pos single
      exact writing_bind made (fun _ => faulty_of_expression) fun code whole made =>
        .line _ [] (.expression code whole) form made
    · apply writing_unsupported form
      intro scope
      have absent : Keyword.ofToken? name = none := by
        cases found : Keyword.ofToken? name with
        | none => rfl
        | some keyword =>
          exact absurd (called.trans (congrArg _ (Keyword.word_of_ofToken? found)))
            (unnamed keyword)
      rw [fragment, called]
      simp only [if_neg single, absent]
      rfl
  | _ =>
    apply writing_unsupported form
    intro scope
    rw [fragment, called]

/-- Every block is written in one of the ways. The handlers, loops and conditionals are
those that the form of the block describes, and the statements are told apart by the
keyword. Facts about the code of blocks are proved from this by cases, without a look at
how blocks are read. -/
theorem writing_of_block (block : Block) : Writing block := by
  have described := fun scope => blockForm_describes scope block
  cases form : blockForm block with
  | start =>
    rw [form] at described
    exact .start form described
  | key event =>
    rw [form] at described
    refine writing_bind described (fun _ => faulty_of_keyOf) ?_
    intro key named made
    exact .key event key form (event_of_key form) named made
  | loop =>
    rw [form] at described
    refine writing_bind described (fun _ => faulty_of_argumentAt) ?_
    rintro ⟨count, warnings⟩ first made
    exact .loop count warnings form first made
  | conditional =>
    rw [form] at described
    refine writing_bind described (fun _ => faulty_of_argumentAt) ?_
    rintro ⟨condition, warnings⟩ first made
    exact .conditional condition warnings form first made
  | statement =>
    by_cases keyworded : ∃ keyword : Keyword, block.name = .text keyword.word
    · obtain ⟨keyword, named⟩ := keyworded
      exact writing_keyword named form
    · exact writing_unnamed fun keyword named => keyworded ⟨keyword, named⟩

/-- A way of writing lines alone. At every place it gives the lines of the margin
with blanks in front of them, and the same warnings and failure. -/
structure Steady (write : Scope → Fragment) : Prop where
  lines : ∀ scope, (write scope).opening = (write {}).opening.map (indented scope.indent)
  warnings : ∀ scope, (write scope).warnings = (write {}).warnings
  failure : ∀ scope, (write scope).failure = (write {}).failure
  bodiless : ∀ scope, (write scope).body = none
  unclosed : ∀ scope, (write scope).closing = []

/-- A block that is a statement is written alike everywhere: as one line, or not at all. -/
theorem steady_statement (form : blockForm block = .statement) :
    Steady fun scope => fragment scope block := by
  cases writing_of_block block with
  | failed warnings error fault made =>
    simp only [made]
    constructor <;> simp
  | line code warnings statement _ made =>
    simp only [made]
    constructor <;> simp [Fragment.line, indented]
  | start other => cases form.symm.trans other
  | key event key other => cases form.symm.trans other
  | loop count warnings other => cases form.symm.trans other
  | conditional condition warnings other => cases form.symm.trans other

/-- Nothing fails in a block that has no fault, at whatever place it is written. -/
theorem whole_of_sound (scope : Scope) (sound : ¬ Faulty block) :
    (fragment scope block).failure = none := by
  cases writing_of_block block with
  | failed warnings error fault made => exact absurd fault sound
  | line code warnings statement form made => rw [made, Fragment.line]
  | start form made => rw [made, startHandler]
  | key event key form first named made => rw [made, keyHandler]
  | loop count warnings form first made => rw [made, countedLoop]
  | conditional condition warnings form first made => rw [made, conditional]

/-- If a block was written, its body has a place in the code exactly when the body is
to be written: the statements are the blocks that do not enter theirs, and every
other form has a place for it. -/
theorem body_isSome_iff {scope : Scope} (whole : (fragment scope block).failure = none) :
    (fragment scope block).body.isSome = true ↔ block.EntersBody := by
  have enters := (blockForm_statement block).not_left
  cases writing_of_block block with
  | failed warnings error fault made =>
    rw [made] at whole
    cases whole
  | line code warnings statement form made =>
    rw [made, Fragment.line]
    simp [(blockForm_statement block).mp form]
  | start form made =>
    rw [made]
    exact ⟨fun _ => enters.mp (by simp [form]), fun _ => rfl⟩
  | key event key form first named made =>
    rw [made]
    exact ⟨fun _ => enters.mp (by simp [form]), fun _ => rfl⟩
  | loop count warnings form first made =>
    rw [made]
    exact ⟨fun _ => enters.mp (by simp [form]), fun _ => rfl⟩
  | conditional condition warnings form first made =>
    rw [made]
    exact ⟨fun _ => enters.mp (by simp [form]), fun _ => rfl⟩

end SpriteScript.JavaScript
