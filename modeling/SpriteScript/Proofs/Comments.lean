import SpriteScript.Proofs.Counters

/-!
# Comments and line breaks

A handler begins with a comment that shows its event or key, and an event or an
assignment that cannot be written leaves a comment in its place. What a comment shows is
written by an argument. A word, a number or an expression of these has no line break in
it. A quoted text may, and it keeps all of them: dropping its quotes or the word for a
key press drops none. So a comment is a single line exactly if no quoted text that it
shows has a line break; else the rest of that text is code.
-/

namespace SpriteScript

namespace Text

/-- A single line: the only line break is the last character. A comment that is none goes
on as code. -/
def SingleLine (piece : Text) : Prop :=
  ∃ front : Text, ('\n' : CodePoint) ∉ front ∧ piece = front ++ "\n"

/-- A text that ends a line is a single line exactly if no line break stands before its
end. -/
theorem singleLine_iff (front : Text) :
    SingleLine (front ++ "\n") ↔ ('\n' : CodePoint) ∉ front := by
  constructor
  · rintro ⟨other, clear, same⟩
    rwa [List.append_cancel_right same]
  · exact fun clear => ⟨front, clear, rfl⟩

/-- A character that is kept stays when a text is dropped from the front. -/
theorem mem_dropWhile_iff {drops : CodePoint → Bool} {c : CodePoint} (kept : drops c = false)
    (text : Text) : c ∈ text.dropWhile drops ↔ c ∈ text := by
  constructor
  · exact fun member => (List.dropWhile_suffix drops).subset member
  · intro member
    rw [← List.takeWhile_append_dropWhile (p := drops) (l := text), List.mem_append] at member
    rcases member with dropped | rest
    · rw [List.mem_takeWhile_imp dropped] at kept
      cases kept
    · exact rest

/-- Trimming keeps every character that it does not drop, wherever it stands. Only the ends
are looked at, and a character that is kept stops the trimming. -/
theorem mem_trim_iff {drops : CodePoint → Bool} {c : CodePoint} (kept : drops c = false)
    (text : Text) : c ∈ trim drops text ↔ c ∈ text := by
  rw [trim, trimEnd, List.mem_reverse, mem_dropWhile_iff kept, List.mem_reverse, trimStart,
    mem_dropWhile_iff kept]

/-- Taking out a pattern keeps what is not in the pattern. The characters that belong to
the occurrence found last are passed over. -/
theorem mem_removeFrom_iff {pattern : Text} (present : pattern ≠ []) {c : CodePoint}
    (other : c ∉ pattern) (skip : Nat) (text : Text) :
    c ∈ removeFrom pattern skip text ↔ c ∈ text.drop skip := by
  induction text generalizing skip with
  | nil => simp [removeFrom]
  | cons first rest inductionHypothesis =>
    cases skip with
    | succ more => rw [removeFrom, inductionHypothesis, List.drop_succ_cons]
    | zero =>
      rw [removeFrom, List.drop_zero]
      split
      · rename_i found
        obtain ⟨after, whole⟩ := List.isPrefixOf_iff_prefix.mp found
        obtain ⟨begins, remaining, rfl⟩ := List.exists_cons_of_ne_nil present
        cases whole
        rw [List.mem_cons, not_or] at other
        rw [inductionHypothesis]
        simp [other]
      · rw [List.mem_cons, List.mem_cons, inductionHypothesis, List.drop_zero]

/-- A character that is not in the separator is in a joined text exactly if it is in a
part. -/
theorem mem_joined_iff {separator : Text} {c : CodePoint} (other : c ∉ separator)
    (parts : List Text) : c ∈ joined separator parts ↔ ∃ part ∈ parts, c ∈ part := by
  induction parts with
  | nil => simp [joined]
  | cons part rest inductionHypothesis =>
    cases rest with
    | nil => simp [joined]
    | cons next others =>
      rw [joined_cons_cons, List.mem_append, List.mem_append, inductionHypothesis]
      simp [other]

end Text

namespace Argument

/-- A quoted text in the argument has a line break. In an expression any of the parts may
be that text. -/
def Breaks (argument : Argument) : Prop :=
  ∃ token, .text token ∈ argument.parts ∧ Literal.isQuoted token = true ∧ ('\n' : CodePoint) ∈ token

/-- What a token can denote: a number, or a text that has line breaks only if it is quoted. -/
inductive Denoted : Argument → Prop where
  | number (value : Float) : Denoted (.number value)
  | text (token : Text) (quoted : ('\n' : CodePoint) ∈ token → Literal.isQuoted token = true) :
      Denoted (.text token)

end Argument

namespace JavaScript

/-- What a token denotes is written with the line breaks of its quoted text. Numbers are
written without one. -/
theorem break_of_denoted {part : Argument} {code : Text} (denoted : part.Denoted)
    (written : argumentCode part = .ok code) :
    ('\n' : CodePoint) ∈ code ↔
      ∃ token, part = .text token ∧ Literal.isQuoted token = true ∧ ('\n' : CodePoint) ∈ token := by
  cases denoted with
  | number value =>
    have clear : ('\n' : CodePoint) ∉ code := (spelled_numberCode written).not_mem (by decide)
    simp [clear]
  | text token quoted =>
    have whole : token = code := Except.ok.inj written
    rw [← whole]
    constructor
    · exact fun broken => ⟨token, rfl, quoted broken, broken⟩
    · rintro ⟨other, same, _, broken⟩
      cases same
      exact broken

/-- The parts of an expression bring a line break exactly if one of them is a quoted token
that has one. Numbers have none, and other tokens are visible. -/
theorem break_argumentCodes {parts : List Argument} {codes : List Text}
    (denoted : ∀ part ∈ parts, part.Denoted) (written : argumentCodes parts = .ok codes) :
    (∃ code ∈ codes, ('\n' : CodePoint) ∈ code) ↔
      ∃ token, .text token ∈ parts ∧ Literal.isQuoted token = true ∧ ('\n' : CodePoint) ∈ token := by
  induction parts generalizing codes with
  | nil =>
    cases written
    simp
  | cons part rest inductionHypothesis =>
    obtain ⟨code, first, written⟩ := exists_ok_of_bind written
    obtain ⟨others, later, written⟩ := exists_ok_of_bind written
    cases written
    rw [List.forall_mem_cons] at denoted
    rw [List.exists_mem_cons_iff, break_of_denoted denoted.1 first,
      inductionHypothesis denoted.2 later]
    simp only [List.mem_cons, or_and_right, exists_or, eq_comm (a := part)]

/-- An argument is written with the line breaks of its quoted texts. -/
theorem break_argumentCode {argument : Argument} {code : Text}
    (denoted : ∀ part ∈ argument.parts, part.Denoted) (written : argumentCode argument = .ok code) :
    ('\n' : CodePoint) ∈ code ↔ argument.Breaks := by
  cases argument with
  | number value =>
    rw [break_of_denoted (.number value) written]
    simp [Argument.Breaks, Argument.parts]
  | text token =>
    rw [break_of_denoted (denoted _ List.mem_cons_self) written]
    simp [Argument.Breaks, Argument.parts]
  | expression parts =>
    have written : (argumentCodes parts >>= fun codes => _) = .ok code := written
    obtain ⟨codes, each, written⟩ := exists_ok_of_bind written
    cases written
    have opening : ('\n' : CodePoint) ∉ ("(" : Text) := by decide
    have closing : ('\n' : CodePoint) ∉ (")" : Text) := by decide
    have inside : ('\n' : CodePoint) ∈ Text.joined " " codes ↔ (Argument.expression parts).Breaks :=
      (Text.mem_joined_iff (by decide) codes).trans (break_argumentCodes denoted each)
    simp [opening, closing, inside]
  | other datum => cases denoted (.other datum) List.mem_cons_self

/-- Where an argument stands for a name, its line breaks are those of its quoted text. Only
the quotes at the ends are dropped, and they are no line breaks. -/
theorem break_nameCode {argument : Argument} {name : Text}
    (denoted : ∀ part ∈ argument.parts, part.Denoted) (named : nameCode argument = .ok name) :
    ('\n' : CodePoint) ∈ name ↔ argument.Breaks := by
  cases argument with
  | text token =>
    cases named
    have written : argumentCode (.text token) = .ok token := rfl
    rw [← break_argumentCode denoted written]
    exact Text.mem_trim_iff (by decide) token
  | number value => exact break_argumentCode denoted named
  | expression parts => exact break_argumentCode denoted named
  | other datum => exact break_argumentCode denoted named

/-- The argument that names the key of an event: the one after it if nothing is left of
the event without the word for a key press, or else the event. -/
def keyArgument (event : Text) (args : List Argument) : Argument :=
  match Text.removeAll keyWord event, args with
  | [], _ :: key :: _ => key
  | _, _ => .text event

/-- A key is an argument in place of a name, or what is left of the event without the word
for a key press. -/
theorem keyOf_cases (event : Text) (args : List Argument) :
    keyOf event args = nameCode (keyArgument event args) ∨
      (keyArgument event args = .text event ∧
        keyOf event args = .ok (Text.removeAll keyWord event)) := by
  unfold keyOf keyArgument
  cases left : Text.removeAll keyWord event with
  | cons c rest => exact .inr ⟨rfl, rfl⟩
  | nil =>
    match args with
    | [] => exact .inr ⟨rfl, rfl⟩
    | [_] => exact .inr ⟨rfl, rfl⟩
    | _ :: key :: _ => exact .inl rfl

/-- A key is shown with the line breaks of its quoted text. Taking out the word for a key
press leaves line breaks as they are, since it has none. -/
theorem break_keyOf {event key : Text} {args : List Argument}
    (denoted : ∀ part ∈ (keyArgument event args).parts, part.Denoted)
    (named : keyOf event args = .ok key) :
    ('\n' : CodePoint) ∈ key ↔ (keyArgument event args).Breaks := by
  rcases keyOf_cases event args with called | ⟨shown, removed⟩
  · exact break_nameCode denoted (called.symm.trans named)
  · rw [shown] at denoted ⊢
    cases removed.symm.trans named
    have written : argumentCode (.text event) = .ok event := rfl
    rw [← break_argumentCode denoted written]
    exact Text.mem_removeFrom_iff (by decide) (by decide) 0 event

end JavaScript

/-- A token with a line break is quoted. Outside of strings a line break separates tokens.
-/
theorem Token.quoted_of_break {token : Text} (formed : Complete token ∨ Unclosed token)
    (broken : ('\n' : CodePoint) ∈ token) : Literal.isQuoted token = true := by
  rcases formed with complete | ⟨quote, inner, opens, _⟩
  · rcases complete.visible_or_quoted with visible | ⟨quote, inner, opens, rfl⟩
    · exact absurd (visible _ broken) (by decide)
    · exact opens
  · exact opens

/-- The arguments of a parsed program are made of what tokens denote. Their tokens come
from the source, so a line break in one of them means that it is quoted. -/
theorem denoted_of_parsed (source : Text) {block : Block} {argument : Argument}
    (member : block ∈ (parse (tokenize source)).blocks) (given : argument ∈ block.args) :
    ∀ part ∈ argument.parts, part.Denoted := by
  have drawn := Program.drawnFrom_parse (tokenize source)
  intro part held
  rcases drawn.part_mem member given held with ⟨token, listed, rfl⟩ | ⟨delimiter, listed, rfl⟩
  · unfold Literal.argument
    split
    · exact .number _
    · exact .text token
        (Token.quoted_of_break ((tokenize_wellFormed source).each token listed))
  · have clear : ∀ delimiter ∈ delimiters, ('\n' : CodePoint) ∉ delimiter := by decide
    exact .text delimiter fun broken => absurd broken (clear delimiter listed)

/-- The comments that blocks leave, each with the arguments that it shows. -/
inductive Block.Comment (block : Block) : List Argument → Text → Prop where
  | start (form : JavaScript.blockForm block = .start) : Comment block [] "// When green flag clicked\n"
  | key (event key : Text) (form : JavaScript.blockForm block = .key event)
      (named : JavaScript.keyOf event block.args = .ok key) :
      Comment block [JavaScript.keyArgument event block.args] ("// When " ++ key ++ " key pressed\n")
  | unsupported (code : Text) (family : block.kind = .event) (named : block.name = .text "when")
      (unknown : ¬ block.event.IsKnownEvent)
      (written : JavaScript.argumentCode block.event = .ok code) :
      Comment block [block.event] ("// Unsupported event: " ++ code ++ "\n")
  | nameless (keyword : Keyword) (operator : Text) (family : block.kind = .assignment)
      (named : block.name = .text keyword.word) (assigns : keyword.operator? = some operator)
      (absent : block.args = []) :
      Comment block [] ("// " ++ keyword.word ++ ": missing variable name" ++ "\n")

namespace JavaScript

/-- An event that is not known is written as one line. -/
theorem fragment_unsupported {block : Block} {code : Text} (family : block.kind = .event)
    (named : block.name = .text "when") (unknown : ¬ block.event.IsKnownEvent)
    (written : argumentCode block.event = .ok code) :
    blockForm block = .statement ∧
      fragment {} block = .line {} ("// Unsupported event: " ++ code)
        [⟨.unsupportedEvent, block.event.display⟩] := by
  have form := (eventForm_statement block.event).mpr unknown
  constructor
  · rw [blockForm, if_pos ⟨family, named⟩]
    exact form
  · have made := fragment_keyword {} (show block.name = .text Keyword.whenEvent.word from named)
    rw [family] at made
    have made : fragment {} block = eventFragment {} block := made
    rw [made, eventFragment_unknown {} form, unsupportedEvent,
      if_pos (isWritable_of_argumentCode written), written]

/-- An assignment without a name is written as one line. It shows the keyword alone, which
has no line break. -/
theorem fragment_nameless {block : Block} {keyword : Keyword} {operator : Text}
    (family : block.kind = .assignment) (named : block.name = .text keyword.word)
    (assigns : keyword.operator? = some operator) (absent : block.args = []) :
    blockForm block = .statement ∧
      (fragment {} block).opening = ["// " ++ keyword.word ++ ": missing variable name" ++ "\n"] := by
  constructor
  · rw [blockForm_keyword named, family]
  · have code : fragment {} block = .ofExcept (assignFragment operator {} block) := by
      have written := fragment_keyword {} named
      rw [family] at written
      cases keyword <;> cases assigns <;> exact written
    rw [code, assignFragment, absent, named]
    rfl

/-- The comment of a block is among its lines, behind the blanks of the place where the
block stands. -/
theorem RenderedIn.comment {block : Block} {lines : List Text} (rendered : RenderedIn lines block)
    {shown : List Argument} {comment : Text} (left : block.Comment shown comment) :
    ∃ indent, indented indent comment ∈ lines := by
  cases left with
  | start form =>
    obtain ⟨indent, loops, body, output, made, among⟩ := rendered
    unfold renderBlock at made
    rw [form] at made
    obtain ⟨inside, _, made⟩ := exists_ok_of_bind made
    cases made
    exact ⟨indent, among _ List.mem_cons_self⟩
  | key event key form named =>
    obtain ⟨indent, loops, body, output, made, among⟩ := rendered
    unfold renderBlock at made
    rw [form] at made
    obtain ⟨shownKey, again, made⟩ := exists_ok_of_bind made
    obtain ⟨inside, _, made⟩ := exists_ok_of_bind made
    cases made
    cases again.symm.trans named
    exact ⟨indent, among _ List.mem_cons_self⟩
  | unsupported code family named unknown written =>
    obtain ⟨form, made⟩ := fragment_unsupported family named unknown written
    apply (rendered.written form).2
    rw [made]
    exact List.mem_cons_self
  | nameless keyword operator family named assigns absent =>
    obtain ⟨form, opening⟩ := fragment_nameless family named assigns absent
    apply (rendered.written form).2
    rw [opening]
    exact List.mem_cons_self

end JavaScript

/-- A comment shows arguments of its block, or the empty text where there is none. -/
theorem Block.Comment.shown_mem {block : Block} {shown : List Argument} {comment : Text}
    (left : block.Comment shown comment) :
    ∀ argument ∈ shown, argument ∈ block.args ∨ argument = .text "" := by
  have first : block.event ∈ block.args ∨ block.event = .text "" := by
    rw [Block.event]
    cases block.args with
    | nil => exact .inr rfl
    | cons given rest => exact .inl List.mem_cons_self
  cases left with
  | start form => exact List.forall_mem_nil _
  | key event key form named =>
    intro argument member
    rw [List.mem_singleton.mp member]
    unfold JavaScript.keyArgument
    split
    · rename_i args
      exact .inl (by simp [args])
    · rwa [← JavaScript.event_of_key form]
  | unsupported code family named unknown written =>
    intro argument member
    rwa [List.mem_singleton.mp member]
  | nameless keyword operator family named assigns absent => exact List.forall_mem_nil _

/-- A comment is a single line exactly if no quoted text that it shows has a line break.
The cases are the comments that blocks leave. -/
theorem Block.Comment.singleLine_iff {block : Block} {shown : List Argument} {comment : Text}
    (left : block.Comment shown comment)
    (denoted : ∀ argument ∈ shown, ∀ part ∈ argument.parts, part.Denoted) :
    comment.SingleLine ↔ ∀ argument ∈ shown, ¬ argument.Breaks := by
  cases left with
  | start form =>
    have single : Text.SingleLine "// When green flag clicked\n" :=
      ⟨"// When green flag clicked", by decide +kernel, by decide +kernel⟩
    simp [single]
  | key event key form named =>
    have broken := JavaScript.break_keyOf (denoted _ List.mem_cons_self) named
    have opening : ('\n' : CodePoint) ∉ ("// When " : Text) := by decide
    have closing : ('\n' : CodePoint) ∉ (" key pressed" : Text) := by decide
    have ends : (" key pressed\n" : Text) = " key pressed" ++ "\n" := rfl
    rw [ends, ← List.append_assoc, Text.singleLine_iff]
    simp [opening, closing, broken]
  | unsupported code family named unknown written =>
    have broken := JavaScript.break_argumentCode (denoted _ List.mem_cons_self) written
    have opening : ('\n' : CodePoint) ∉ ("// Unsupported event: " : Text) := by decide
    rw [Text.singleLine_iff]
    simp [opening, broken]
  | nameless keyword operator family named assigns absent =>
    have clear : ('\n' : CodePoint) ∉ ("// " ++ keyword.word ++ ": missing variable name" : Text) := by
      cases keyword <;> decide
    rw [Text.singleLine_iff]
    exact iff_of_true clear nofun

/-- A script with an event that is not known and nothing after its body is rendered to
its comment alone. -/
theorem Unfolds.render_unsupported {program : Program} {root : Datum} {tree : Tree} {block : Block}
    {code : Text} (unfolds : Unfolds program root tree) (found : program.block? root = some block)
    (family : block.kind = .event) (named : block.name = .text "when")
    (unknown : ¬ block.event.IsKnownEvent) (ended : block.next = .null)
    (written : JavaScript.argumentCode block.event = .ok code) :
    ∃ output, JavaScript.renderTree 0 0 tree = .ok output ∧
      output.lines = ["// Unsupported event: " ++ code ++ "\n"] := by
  obtain ⟨form, made⟩ := JavaScript.fragment_unsupported family named unknown written
  obtain ⟨place, leads, stored⟩ := Option.bind_eq_some_iff.mp found
  obtain ⟨body, next, rfl, after, _, _⟩ := unfolds.block_cases leads stored
  rw [ended] at after
  cases after with
  | nowhere =>
    have here : ∀ inside, JavaScript.renderBlock 0 0 block inside =
        .ok { lines := ["// Unsupported event: " ++ code ++ "\n"],
              warnings := [⟨.unsupportedEvent, block.event.display⟩] } := by
      intro inside
      unfold JavaScript.renderBlock
      rw [form]
      show JavaScript.renderStatement 0 block = _
      rw [JavaScript.renderStatement, made]
      rfl
    rw [JavaScript.renderTree, here]
    exact ⟨_, rfl, rfl⟩
  | entered _ _ _ _ _ leads => cases leads
  | passed _ _ _ _ leads => cases leads

/-- Every comment that is left while a source is compiled is in the code, and it is a
single line exactly if no quoted text that it shows has a line break. A script with an
event that is not known and nothing after its body contributes its comment and nothing
else. -/
theorem comment_single_line_iff (source : Text) :
    ∃ (header : Text) (trees : List Tree) (output : JavaScript.Output),
      JavaScript.declarations (parse (tokenize source)) = .ok header ∧
      List.Forall₂ (Unfolds (parse (tokenize source))) (parse (tokenize source)).scripts trees ∧
      JavaScript.renderForest trees = .ok output ∧
      (compile (.text source)).result.output =
        .ok (JavaScript.preamble ++ (header ++ output.lines.flatten)) ∧
      (∀ block shown comment, (parse (tokenize source)).Reached block →
        block.Comment shown comment →
        (∃ indent, JavaScript.indented indent comment ∈ output.lines) ∧
          (comment.SingleLine ↔ ∀ argument ∈ shown, ¬ argument.Breaks)) ∧
      ∀ root tree block, Unfolds (parse (tokenize source)) root tree →
        (parse (tokenize source)).block? root = some block →
        block.kind = .event → block.name = .text "when" → ¬ block.event.IsKnownEvent →
        block.next = .null →
        ∃ part comment, JavaScript.renderTree 0 0 tree = .ok part ∧ part.lines = [comment] ∧
          block.Comment [block.event] comment := by
  obtain ⟨header, trees, output, declared, unfold, rendered, _, compiled⟩ := compile_renders source
  refine ⟨header, trees, output, declared, unfold, rendered, compiled, ?_, ?_⟩
  · intro block shown comment reached left
    refine ⟨(reached.renderedIn unfold rendered).comment left, left.singleLine_iff ?_⟩
    obtain ⟨_, _, place, _, found⟩ := reached
    intro argument member
    rcases left.shown_mem argument member with given | rfl
    · exact denoted_of_parsed source (List.mem_of_getElem? found) given
    · intro part held
      rw [List.mem_singleton.mp held]
      exact .text _ nofun
  · intro root tree block unfolds found family named unknown ended
    have each := (parse_plain (tokenize source)).arguments block (Program.mem_of_block? found)
    have plain : block.event.Plain := JavaScript.event_of_each (.text _) each
    obtain ⟨code, written⟩ := JavaScript.argumentCode_of_finite plain.finite
    obtain ⟨part, here, lines⟩ :=
      unfolds.render_unsupported found family named unknown ended written
    exact ⟨part, _, here, lines, .unsupported code family named unknown written⟩

/-- The source of a script that has an event and nothing else. An event that is not known
leaves its comment there and no other code. -/
def eventSource (event : Text) : Text :=
  Text.joined " " ["when", event]

/-- The block of such a script. -/
def eventBlock (event : Text) : Block :=
  { kind := .event, name := .text "when", args := [.text event] }

/-- A source with an event and nothing else is parsed to one script of one block. -/
theorem parse_eventSource {event : Text} (complete : Token.Complete event)
    (plain : event ∉ Source.reserved) (textual : Literal.argument event = .text event) :
    (parse (tokenize (eventSource event))).blocks[0]? = some (eventBlock event) ∧
      (parse (tokenize (eventSource event))).scripts = [.int 0] := by
  have word : Token.Complete "when" := .word _ _ rfl (by decide)
  have tokens : tokenize (eventSource event) = [("when" : Text), event] := by
    apply Token.tokenize_joined_of_complete
    simp [word, complete]
  have printed := Source.parse_printed
    [.script [.literal ⟨event, complete.tight.1, plain⟩] false .none]
  rw [tokens, eventBlock, ← textual]
  exact ⟨congrArg (·.blocks[0]?) printed, congrArg (·.scripts) printed⟩

/-- That block is the root of a script, and so it is reached. -/
theorem reached_eventBlock {event : Text} (complete : Token.Complete event)
    (plain : event ∉ Source.reserved) (textual : Literal.argument event = .text event) :
    (parse (tokenize (eventSource event))).Reached (eventBlock event) := by
  obtain ⟨found, scripts⟩ := parse_eventSource complete plain textual
  exact ⟨.int 0, by simp [scripts], 0, .here (.int 0) 0 _ rfl found, found⟩

/-- The comment for an event that is a word is a single line of the code. -/
theorem comment_single_line_iff_word :
    (parse (tokenize "when clicked")).Reached (eventBlock "clicked") ∧
      (eventBlock "clicked").Comment [.text "clicked"] "// Unsupported event: clicked\n" ∧
      Text.SingleLine "// Unsupported event: clicked\n" := by
  have joined : ("when clicked" : Text) = eventSource "clicked" := by decide +kernel
  have reached := @reached_eventBlock "clicked" (.word _ _ rfl (by decide)) (by decide) rfl
  rw [← joined] at reached
  have comment : (eventBlock "clicked").Comment [.text "clicked"] "// Unsupported event: clicked\n" :=
    .unsupported "clicked" rfl rfl (by decide) rfl
  obtain ⟨_, _, _, _, _, _, _, comments, _⟩ := comment_single_line_iff "when clicked"
  refine ⟨reached, comment, (comments _ _ _ reached comment).2.mpr ?_⟩
  intro argument member
  rw [List.mem_singleton.mp member]
  rintro ⟨token, held, quoted, _⟩
  cases List.mem_singleton.mp held
  revert quoted
  decide

/-- A quoted event with a line break. -/
def brokenEvent : Text := "'x\nalert(1) //'"

/-- The comment for a quoted event with a line break goes on as code. The rest of the event
stands on a line of its own, outside of the comment. -/
theorem comment_broken :
    (∃ header, JavaScript.declarations (parse (tokenize "when 'x\nalert(1) //'")) = .ok header ∧
      (compile (.text "when 'x\nalert(1) //'")).result.output =
        .ok (JavaScript.preamble ++ (header ++ "// Unsupported event: 'x\nalert(1) //'\n"))) ∧
    (parse (tokenize "when 'x\nalert(1) //'")).Reached (eventBlock brokenEvent) ∧
    (eventBlock brokenEvent).Comment [.text brokenEvent]
      "// Unsupported event: 'x\nalert(1) //'\n" ∧
    ¬ Text.SingleLine "// Unsupported event: 'x\nalert(1) //'\n" := by
  have complete : Token.Complete brokenEvent :=
    .quoted '\'' "x\nalert(1) //" rfl (by decide)
  have joined : ("when 'x\nalert(1) //'" : Text) = eventSource brokenEvent := by
    decide +kernel
  have reached := reached_eventBlock complete (by decide) rfl
  have unknown : ¬ (eventBlock brokenEvent).event.IsKnownEvent := by decide
  have shown : ("// Unsupported event: 'x\nalert(1) //'\n" : Text) =
      "// Unsupported event: " ++ brokenEvent ++ "\n" := by
    decide +kernel
  rw [joined, shown]
  refine ⟨?_, reached, .unsupported brokenEvent rfl rfl unknown rfl, ?_⟩
  · obtain ⟨found, scripts⟩ := parse_eventSource complete (by decide) rfl
    have unfolds : Unfolds (parse (tokenize (eventSource brokenEvent))) (.int 0)
        (.block 0 (eventBlock brokenEvent) .nothing .nothing) :=
      .passed _ _ _ _ rfl found (by decide) .nowhere
    obtain ⟨header, output, declared, rendered, compiled⟩ := compile_renders_script scripts unfolds
    obtain ⟨first, here, rendered⟩ := exists_ok_of_bind rendered
    cases rendered
    obtain ⟨other, again, lines⟩ := unfolds.render_unsupported (block?_of_index? rfl found)
      rfl rfl unknown rfl rfl
    cases here.symm.trans again
    refine ⟨header, declared, compiled.trans ?_⟩
    rw [JavaScript.lines_append, lines]
    rfl
  · intro single
    have broken := (Text.singleLine_iff ("// Unsupported event: " ++ brokenEvent)).mp single
    exact broken (by decide)

end SpriteScript
