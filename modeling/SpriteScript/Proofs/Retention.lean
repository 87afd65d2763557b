import SpriteScript.Proofs.Joining
import SpriteScript.Proofs.Quotation

/-!
# No token is lost

A reading takes tokens from the front of what is ahead of it and never steps
beyond the end, so its place tells how many it took. What a script takes it keeps:
delimiters aside, the names and the arguments of its blocks in preorder are its
tokens in order. A token that begins no item is skipped and reported.

The tokens of a source without declarations are therefore those kept in the arena
and those reported as skipped, merged in their order.
-/

namespace SpriteScript

/-- Two lists merged into a third, in which both keep their order. It says nothing about
which of the two comes first where both go on, so a whole may be a merge in several ways. -/
inductive Merges {α : Type} : List α → List α → List α → Prop where
  | nil : Merges [] [] []
  | left (item : α) (first second whole : List α) (rest : Merges first second whole) :
      Merges (item :: first) second (item :: whole)
  | right (item : α) (first second whole : List α) (rest : Merges first second whole) :
      Merges first (item :: second) (item :: whole)

namespace Merges

variable {α : Type}

/-- A list merged with nothing stays as it is. -/
theorem refl_left (items : List α) : Merges items [] items := by
  induction items with
  | nil => exact .nil
  | cons item rest inductionHypothesis => exact .left item rest [] rest inductionHypothesis

/-- Nothing merged with a list leaves the list. -/
theorem refl_right (items : List α) : Merges [] items items := by
  induction items with
  | nil => exact .nil
  | cons item rest inductionHypothesis => exact .right item [] rest rest inductionHypothesis

/-- Merged lists may be merged one after the other. The induction is on the first merge,
and the second begins where it ends. -/
theorem append {first second whole laterFirst laterSecond later : List α}
    (merges : Merges first second whole) (continued : Merges laterFirst laterSecond later) :
    Merges (first ++ laterFirst) (second ++ laterSecond) (whole ++ later) := by
  induction merges with
  | nil => exact continued
  | left item first second whole _ inductionHypothesis =>
    exact .left item _ _ _ inductionHypothesis
  | right item first second whole _ inductionHypothesis =>
    exact .right item _ _ _ inductionHypothesis

end Merges

/-- The tokens that only delimit: parentheses and braces. Whether one of them was part of
the arena or only marked an end cannot be told from the arena alone. -/
def delimiters : List Text := ["(", ")", "\x7b", "\x7d"]

/-- The argument is a token that only delimits. Expressions are arguments of their own and
no delimiters. -/
def Argument.isDelimiter : Argument → Bool
  | .text value => delimiters.contains value
  | _ => false

/-- Arguments without those that only delimit. Both sides of a comparison are freed of
them. -/
def undelimited (arguments : List Argument) : List Argument :=
  arguments.filter fun argument => !argument.isDelimiter

/-- Delimiters are left out of two lists one after the other. -/
@[simp]
theorem undelimited_append (first second : List Argument) :
    undelimited (first ++ second) = undelimited first ++ undelimited second :=
  List.filter_append ..

/-- The parts of an argument: those of an expression, or the argument itself. Expressions
are not nested by the parser, so one step takes them apart. -/
def Argument.parts : Argument → List Argument
  | .expression parts => parts
  | argument => [argument]

/-- What a block holds: its name, and its arguments with expressions taken apart. Links are
not among it. -/
def Block.contents (block : Block) : List Argument :=
  .ofDatum block.name :: block.args.flatMap Argument.parts

/-- What the blocks of a program hold, in the order of their places in the arena. -/
def Program.contents (program : Program) : List Argument :=
  program.blocks.flatMap Block.contents

/-- What the blocks of a chain hold in preorder: the first block, then its body, and then
what follows it. That is the order of their tokens. -/
def Chain.contents : Chain → List Argument
  | .done => []
  | .block keyword args body next =>
    .text keyword.word :: (args.flatMap Argument.parts ++ (body.contents ++ next.contents))

/-- What a chain holds is laid out in its order, wherever the layout begins: the places of
blocks are in links only. -/
theorem Chain.contents_layout (chain : Chain) (index : Nat) :
    (chain.layout index).flatMap Block.contents = chain.contents := by
  induction chain generalizing index with
  | done => rfl
  | block keyword args body next bodyHypothesis nextHypothesis =>
    rw [layout, contents, List.flatMap_cons, List.flatMap_append, bodyHypothesis, nextHypothesis]
    rfl

/-- What an item adds to the arena. Declarations add nothing. -/
def Grammar.Item.contents : Grammar.Item → List Argument
  | .script chain => chain.contents
  | _ => []

/-- An item adds what it holds at the end and changes nothing of what was held before. -/
theorem Program.contents_addItem (program : Program) (item : Grammar.Item) :
    (program.addItem item).contents = program.contents ++ item.contents := by
  cases item with
  | script chain =>
    show (program.blocks ++ chain.layout program.nextIndex).flatMap Block.contents = _
    rw [List.flatMap_append, chain.contents_layout]
    rfl
  | declareVariable name value => exact (List.append_nil _).symm
  | declareList name values => exact (List.append_nil _).symm

/-- Items that are added in a row add what they hold in their order. -/
theorem Program.contents_addItems (program : Program) (items : List Grammar.Item) :
    (items.foldl Program.addItem program).contents =
      program.contents ++ items.flatMap Grammar.Item.contents := by
  induction items generalizing program with
  | nil => simp
  | cons item rest inductionHypothesis =>
    rw [List.foldl_cons, inductionHypothesis, contents_addItem, List.flatMap_cons,
      List.append_assoc]

/-- A token is a single part, whether it denotes a number or not. Only parentheses make
expressions. -/
theorem Literal.parts_argument (token : Text) :
    (Literal.argument token).parts = [Literal.argument token] := by
  unfold Literal.argument
  split <;> rfl

/-- A keyword denotes itself, since none of them is a number. -/
theorem Literal.argument_word (keyword : Keyword) :
    Literal.argument keyword.word = .text keyword.word := by
  cases keyword <;> rfl

/-- What the warnings about skipped tokens say, in order. Warnings of other kinds are left
out. -/
def skippedMessages (warnings : List Warning) : List Text :=
  (warnings.filter fun warning => warning.code = .skippedToken).map Warning.message

/-- Reports of skipped tokens come in the order of the readings that made them. -/
theorem skippedMessages_append (first second : List Warning) :
    skippedMessages (first ++ second) = skippedMessages first ++ skippedMessages second := by
  rw [skippedMessages, List.filter_append, List.map_append]
  rfl

namespace Grammar

/-- The reading takes these tokens: they are what it leaves behind, and it moved once for
each of them. Both are needed, because a cursor counts its moves beyond the end as well. -/
structure Spans {α : Type} {start : Cursor Text} (reading : Reading α start)
    (taken : List Text) : Prop where
  ahead : start.rest = taken ++ reading.cursor.rest
  position : reading.cursor.position = start.position + taken.length

variable {α β γ : Type} {start cursor : Cursor Text} {taken more : List Text} {token : Text}

/-- To read nothing is to take no tokens. -/
theorem spans_stay (value : α) : Spans (Reading.stay value : Reading α start) [] :=
  ⟨rfl, rfl⟩

/-- What is made of a reading does not change what it took. -/
theorem Spans.map {reading : Reading α start} (spans : Spans reading taken) (change : α → β) :
    Spans (reading.map change) taken :=
  ⟨spans.ahead, spans.position⟩

/-- A warning does not change what a reading took. -/
theorem Spans.warn {reading : Reading α start} (spans : Spans reading taken) (warning : Warning) :
    Spans (reading.warn warning) taken :=
  ⟨spans.ahead, spans.position⟩

/-- A token before what a reading takes. The reading is seen from the place of that token
then. -/
theorem Spans.since {reading : Reading α cursor.advance} (spans : Spans reading taken)
    (standing : cursor.current? = some token)
    (order : cursor.advance.rest.length ≤ cursor.rest.length) :
    Spans (reading.since order) (token :: taken) := by
  obtain ⟨rest, begins⟩ := List.head?_eq_some_iff.mp standing
  have ahead := spans.ahead
  have position := spans.position
  rw [Cursor.rest_advance begins] at ahead
  simp only [Cursor.advance] at position
  refine ⟨?_, ?_⟩
  · show cursor.rest = token :: taken ++ reading.cursor.rest
    rw [begins, ahead, List.cons_append]
  · show reading.cursor.position = cursor.position + (token :: taken).length
    rw [position, List.length_cons]
    omega

/-- A token after what a reading takes. It has to be there: beyond the end a move would
take nothing. -/
theorem Spans.thenAdvance {reading : Reading α start} (spans : Spans reading taken)
    (standing : reading.cursor.current? = some token) :
    Spans reading.thenAdvance (taken ++ [token]) := by
  obtain ⟨rest, begins⟩ := List.head?_eq_some_iff.mp standing
  refine ⟨?_, ?_⟩
  · show start.rest = taken ++ [token] ++ reading.cursor.advance.rest
    rw [spans.ahead, Cursor.rest_advance begins, begins, List.append_assoc, List.singleton_append]
  · show reading.cursor.position + 1 = start.position + (taken ++ [token]).length
    rw [spans.position, List.length_append, List.length_singleton, Nat.add_assoc]

/-- Two readings take the tokens of both, first those of the first. The second has to start
where the first stopped. -/
theorem Spans.andThen {first : Reading α start} {second : Reading β first.cursor}
    (spans : Spans first taken) (continued : Spans second more) (join : α → β → γ) :
    Spans (first.andThen second join) (taken ++ more) := by
  refine ⟨?_, ?_⟩
  · rw [spans.ahead, continued.ahead, List.append_assoc]
    rfl
  · show second.cursor.position = start.position + (taken ++ more).length
    rw [continued.position, spans.position, List.length_append, Nat.add_assoc]

/-- Tokens up to a stop are taken without the stop. -/
theorem spans_tokensUntil (stop : Text) (cursor : Cursor Text) :
    Spans (tokensUntil stop cursor) (tokensUntil stop cursor).value := by
  refine ⟨?_, rfl⟩
  have whole := List.take_append_drop (cursor.rest.takeWhile (· != stop)).length cursor.rest
  rw [← List.prefix_iff_eq_take.mp (List.takeWhile_prefix (· != stop))] at whole
  exact whole.symm

/-- Tokens up to a stop, which may be missing. If it is there it is taken, too; if not, all
tokens were taken. -/
theorem spans_expectStop (stop : Text) (missing : Warning) (change : List Text → α)
    (cursor : Cursor Text) :
    Spans (expectStop missing ((tokensUntil stop cursor).map change))
        (tokensUntil stop cursor).value ∨
      Spans (expectStop missing ((tokensUntil stop cursor).map change))
        ((tokensUntil stop cursor).value ++ [stop]) := by
  have spans := (spans_tokensUntil stop cursor).map change
  unfold expectStop
  split
  · exact .inl (spans.warn missing)
  · rename_i present
    rw [List.isEmpty_iff] at present
    obtain ⟨token, rest, standing⟩ := List.exists_cons_of_ne_nil present
    -- The first token that is not taken is the stop.
    have found : token = stop := by
      have left : cursor.rest.dropWhile (· != stop) = token :: rest := by
        have whole := List.takeWhile_append_dropWhile (p := (· != stop)) (l := cursor.rest)
        have ahead := spans.ahead
        rw [standing] at ahead
        exact List.append_cancel_left (whole.trans ahead)
      have stopped := List.head?_dropWhile_not (· != stop) cursor.rest
      rw [left] at stopped
      simpa using stopped
    rw [found] at standing
    exact .inr (spans.thenAdvance (Cursor.current?_of_rest standing))

/-- What a reading keeps of the tokens that it takes, if it skips none: delimiters aside,
they are these contents. That it skips none is seen from its warnings. -/
structure Keeps {α : Type} {start : Cursor Text} (reading : Reading α start)
    (contents : List Argument) : Prop where
  taken : ∃ taken, Spans reading taken ∧
    undelimited (taken.map Literal.argument) = undelimited contents
  unskipped : ∀ warning ∈ reading.warnings, warning.code ≠ .skippedToken

variable {contents others : List Argument}

/-- To read nothing is to keep nothing. -/
theorem keeps_stay (value : α) : Keeps (Reading.stay value : Reading α start) [] :=
  ⟨⟨[], spans_stay value, rfl⟩, by simp [Reading.stay]⟩

/-- What is made of a reading does not change what it keeps; the contents are given apart
from its value. -/
theorem Keeps.map {reading : Reading α start} (keeps : Keeps reading contents) (change : α → β) :
    Keeps (reading.map change) contents := by
  obtain ⟨⟨taken, spans, same⟩, unskipped⟩ := keeps
  exact ⟨⟨taken, spans.map change, same⟩, unskipped⟩

/-- Delimiters among the contents do not matter, so contents may be given with or without
them. -/
theorem Keeps.congr {reading : Reading α start} (keeps : Keeps reading contents)
    (same : undelimited contents = undelimited others) : Keeps reading others := by
  obtain ⟨⟨taken, spans, kept⟩, unskipped⟩ := keeps
  exact ⟨⟨taken, spans, kept.trans same⟩, unskipped⟩

/-- A warning of another kind does not change what a reading keeps. -/
theorem Keeps.warn {reading : Reading α start} (keeps : Keeps reading contents) {warning : Warning}
    (other : warning.code ≠ .skippedToken) : Keeps (reading.warn warning) contents := by
  obtain ⟨⟨taken, spans, same⟩, unskipped⟩ := keeps
  refine ⟨⟨taken, spans.warn warning, same⟩, ?_⟩
  intro reported member
  rcases List.mem_append.mp member with earlier | new
  · exact unskipped reported earlier
  · exact List.mem_singleton.mp new ▸ other

/-- A token before a reading is kept before its contents. -/
theorem Keeps.since {reading : Reading α cursor.advance} (keeps : Keeps reading contents)
    (standing : cursor.current? = some token)
    (order : cursor.advance.rest.length ≤ cursor.rest.length) :
    Keeps (reading.since order) (Literal.argument token :: contents) := by
  obtain ⟨⟨taken, spans, same⟩, unskipped⟩ := keeps
  refine ⟨⟨token :: taken, spans.since standing order, ?_⟩, unskipped⟩
  rw [List.map_cons, ← List.singleton_append, undelimited_append, same, ← undelimited_append]
  rfl

/-- A token after a reading is kept after its contents. If it delimits, it may be dropped
again. -/
theorem Keeps.thenAdvance {reading : Reading α start} (keeps : Keeps reading contents)
    (standing : reading.cursor.current? = some token) :
    Keeps reading.thenAdvance (contents ++ [Literal.argument token]) := by
  obtain ⟨⟨taken, spans, same⟩, unskipped⟩ := keeps
  refine ⟨⟨taken ++ [token], spans.thenAdvance standing, ?_⟩, unskipped⟩
  rw [List.map_append, undelimited_append, same, undelimited_append]
  rfl

/-- Two readings keep the contents of both, in their order. -/
theorem Keeps.andThen {first : Reading α start} {second : Reading β first.cursor}
    (keeps : Keeps first contents) (continued : Keeps second others) (join : α → β → γ) :
    Keeps (first.andThen second join) (contents ++ others) := by
  obtain ⟨⟨taken, spans, same⟩, unskipped⟩ := keeps
  obtain ⟨⟨more, spansMore, sameMore⟩, unskippedMore⟩ := continued
  refine ⟨⟨taken ++ more, spans.andThen spansMore join, ?_⟩, ?_⟩
  · rw [List.map_append, undelimited_append, same, sameMore, ← undelimited_append]
  · intro reported member
    exact (List.mem_append.mp member).elim (unskipped reported) (unskippedMore reported)

/-- An expression keeps its parts. Its closing parenthesis is a delimiter, and may be
missing. -/
theorem expression_keeps (cursor : Cursor Text) :
    Keeps (expression cursor) (expression cursor).value := by
  have value : (expression cursor).value =
      (tokensUntil ")" cursor).value.map Literal.argument := expectStop_value _ _
  refine ⟨?_, ?_⟩
  · rw [value]
    rcases spans_expectStop ")" ⟨.unterminatedExpression, "missing \")\""⟩
      (List.map Literal.argument) cursor with unclosed | closed
    · exact ⟨_, unclosed, rfl⟩
    · refine ⟨_, closed, ?_⟩
      have closing : undelimited ([(")" : Text)].map Literal.argument) = [] := rfl
      rw [List.map_append, undelimited_append, closing, List.append_nil]
  · unfold expression expectStop
    split
    · simp [Reading.warn, Reading.map, tokensUntil]
    · simp [Reading.thenAdvance, Reading.map, tokensUntil]

/-- Arguments keep their tokens, and the parentheses of an expression are delimiters. The
induction is along the tokens: each step takes a literal or a whole expression. -/
theorem arguments_keeps (depth : Nat) (scope : Bool) (cursor : Cursor Text) :
    Keeps (arguments depth scope cursor)
      ((arguments depth scope cursor).value.flatMap Argument.parts) := by
  induction cursor using arguments.induct depth scope with
  | case1 cursor ended =>
    rw [arguments_ended depth scope (by simp [ended])]
    exact keeps_stay []
  | case2 cursor token standing ends =>
    rw [arguments_ended depth scope (by simp [standing, ends])]
    exact keeps_stay []
  | case3 cursor token standing continued opening inner inductionHypothesis =>
    rw [beq_iff_eq.mp opening] at standing continued
    rw [arguments_expression depth scope standing (by simpa using continued)]
    have parts := (expression_keeps cursor.advance).since standing
      (Cursor.length_rest_advance_le cursor)
    exact (parts.andThen inductionHypothesis _).congr rfl
  | case4 cursor token standing continued single inductionHypothesis =>
    rw [arguments_literal depth scope standing (by simpa using continued) (by simpa using single)]
    have rest := (inductionHypothesis.map (Literal.argument token :: ·)).since standing
      (Cursor.length_rest_advance_le cursor)
    refine rest.congr ?_
    show _ = undelimited ((Literal.argument token :: _).flatMap Argument.parts)
    rw [List.flatMap_cons, Literal.parts_argument, List.singleton_append]

/-- Closing a body keeps what it holds. The brace is a delimiter, and a missing one is
reported as another kind of warning. -/
theorem closing_keeps {reading : Reading α start} (keeps : Keeps reading contents) (name : Datum) :
    Keeps (closing name reading) contents := by
  unfold closing
  split
  · rename_i closed
    refine (keeps.thenAdvance closed).congr ?_
    have brace : undelimited [Literal.argument "\x7d"] = [] := rfl
    rw [undelimited_append, brace, List.append_nil]
  · exact keeps.warn (by simp [unclosedWarning])

/-- Chains and blocks keep their tokens, whatever braces are open. The two call each
other, so both are shown along the tokens that they take. -/
theorem chain_block_keeps :
    (∀ depth event cursor, Keeps (chain depth event cursor)
      (chain depth event cursor).value.contents) ∧
    ∀ depth keyword cursor, Keeps (block depth keyword cursor)
      ((block depth keyword cursor).value.1.flatMap Argument.parts ++
        (block depth keyword cursor).value.2.contents) := by
  refine chain.mutual_induct _ _ ?_ ?_ ?_ ?_ ?_ ?_
  · intro depth event cursor absent
    rw [chain_without_keyword depth event absent]
    exact keeps_stay Chain.done
  · rintro depth event cursor keyword standing ⟨rfl, rfl⟩
    rw [chain_before_event depth standing]
    exact keeps_stay Chain.done
  -- The keyword is the name of the block, and the rest of the chain follows it.
  · intro depth event cursor keyword standing allowed _ inBlock inRest
    rw [chain_with_block depth event standing allowed]
    obtain ⟨token, current, found⟩ := Option.bind_eq_some_iff.mp standing
    have first := inBlock.since current (Cursor.length_rest_advance_le cursor)
    rw [Keyword.word_of_ofToken? found, Literal.argument_word] at first
    refine (first.andThen inRest _).congr ?_
    rw [List.cons_append, List.append_assoc]
    rfl
  -- A scope with a brace, which is a delimiter.
  · intro depth keyword cursor _ scope opened inBody
    rw [block_braced depth cursor scope opened]
    have body := (closing_keeps inBody (.text keyword.word)).since opened
      (Cursor.length_rest_advance_le _)
    refine ((arguments_keeps depth keyword.isScope cursor).andThen body _).congr ?_
    have brace : undelimited [Literal.argument "\x7b"] = [] := rfl
    rw [undelimited_append, ← List.singleton_append, undelimited_append, brace, List.nil_append,
      ← undelimited_append]
    exact congrArg (fun body : Chain => undelimited (_ ++ body.contents))
      (closing_value (.text keyword.word) _).symm
  · intro depth keyword cursor _ scope unopened inBody
    rw [block_unbraced depth cursor scope unopened]
    exact (arguments_keeps depth keyword.isScope cursor).andThen inBody _
  · intro depth keyword cursor plain
    rw [block_plain depth cursor (by simpa using plain)]
    refine ((arguments_keeps depth keyword.isScope cursor).map _).congr ?_
    simp [Reading.map, Chain.contents]

/-- The value of a variable takes what is read for it, if anything is: an equals sign, a
value, both or neither. -/
theorem variableValue_spans (name : Text) (cursor : Cursor Text) :
    ∃ taken, Spans (variableValue name cursor) taken := by
  unfold variableValue
  split
  · exact ⟨[], spans_stay _⟩
  · rename_i token standing
    split
    · split
      · exact ⟨[token], ((spans_stay _).warn _).since standing _⟩
      · rename_i value given
        exact ⟨[token, value], ((spans_stay _).thenAdvance given).since standing _⟩
    · split
      · exact ⟨[token], (spans_stay _).thenAdvance standing⟩
      · exact ⟨[], spans_stay _⟩

/-- The values of a list take what stands between brackets, and the brackets that are
there. -/
theorem listValues_spans (name : Text) (cursor : Cursor Text) :
    ∃ taken, Spans (listValues name cursor) taken := by
  unfold listValues
  split
  · rename_i opened
    rcases spans_expectStop "]" ⟨.incompleteDeclaration, Text.quoted name ++ " is missing \"]\""⟩
      (List.map Literal.value) cursor.advance with unclosed | closed
    · exact ⟨_, unclosed.since opened _⟩
    · exact ⟨_, closed.since opened _⟩
  · exact ⟨[], spans_stay _⟩

/-- A variable declaration takes its name and what is read for its value. At the end of the
tokens it takes nothing. -/
theorem variableDeclaration_spans (cursor : Cursor Text) :
    ∃ taken, Spans (variableDeclaration cursor) taken := by
  unfold variableDeclaration
  split
  · exact ⟨[], (spans_stay _).warn _⟩
  · rename_i name named
    obtain ⟨taken, spans⟩ := variableValue_spans name cursor.advance
    exact ⟨name :: taken, (spans.map _).since named _⟩

/-- A list declaration takes its name and what is read for its values. At the end of the
tokens it takes nothing. -/
theorem listDeclaration_spans (cursor : Cursor Text) :
    ∃ taken, Spans (listDeclaration cursor) taken := by
  unfold listDeclaration
  split
  · exact ⟨[], (spans_stay _).warn _⟩
  · rename_i name named
    obtain ⟨taken, spans⟩ := listValues_spans name cursor.advance
    exact ⟨name :: taken, (spans.map _).since named _⟩

/-- Every item takes what it moves over, a skipped token included. What it does with the
tokens is left open here. -/
theorem item_spans (depth : Nat) (standing : cursor.current? = some token) :
    ∃ taken, Spans (item depth token cursor) taken := by
  unfold item
  split
  · obtain ⟨⟨taken, spans, _⟩, _⟩ := chain_block_keeps.1 depth true cursor
    exact ⟨taken, spans.map _⟩
  split
  · obtain ⟨taken, spans⟩ := variableDeclaration_spans cursor.advance
    exact ⟨token :: taken, spans.since standing _⟩
  split
  · obtain ⟨taken, spans⟩ := listDeclaration_spans cursor.advance
    exact ⟨token :: taken, spans.since standing _⟩
  · exact ⟨[token], ((spans_stay _).warn _).thenAdvance standing⟩

/-- The items of a source take all of its tokens. The induction is on what is left: each
item begins where the one before it stopped. -/
theorem items_span (depth : Nat) (cursor : Cursor Text) :
    Spans (items depth cursor) cursor.rest := by
  induction cursor using items.induct depth with
  | case1 cursor ended =>
    rw [items_ended depth ended, List.head?_eq_none_iff.mp ended]
    exact spans_stay []
  | case2 cursor token standing first inductionHypothesis =>
    rw [items_with_item depth standing]
    obtain ⟨taken, spans⟩ := item_spans depth standing
    have both := spans.andThen inductionHypothesis fun found rest => found.toList ++ rest
    rw [← spans.ahead] at both
    exact both

/-- What a reading does with the tokens that it takes: it reports those that it skips, and
they and the contents are merged in the order of the tokens. -/
structure Accounts {α : Type} {start : Cursor Text} (reading : Reading α start)
    (contents : List Argument) (taken skipped : List Text) : Prop where
  spans : Spans reading taken
  reported : skippedMessages reading.warnings = skipped.map Text.quoted
  merges : Merges (undelimited contents) (undelimited (skipped.map Literal.argument))
    (undelimited (taken.map Literal.argument))

/-- What keeps all that it takes skips nothing, and accounts for its tokens in this way. -/
theorem Keeps.accounts {reading : Reading α start} (keeps : Keeps reading contents) :
    ∃ taken, Accounts reading contents taken [] := by
  obtain ⟨⟨taken, spans, same⟩, unskipped⟩ := keeps
  refine ⟨taken, spans, ?_, ?_⟩
  · rw [skippedMessages, List.map_nil, List.map_eq_nil_iff, List.filter_eq_nil_iff]
    intro warning member
    simpa using unskipped warning member
  · rw [same]
    exact .refl_left _

/-- Two readings account for the tokens of both: what they keep and what they skip comes in
their order. -/
theorem Accounts.andThen {first : Reading α start} {second : Reading β first.cursor}
    {skipped later : List Text} (accounts : Accounts first contents taken skipped)
    (continued : Accounts second others more later) (join : α → β → γ) :
    Accounts (first.andThen second join) (contents ++ others) (taken ++ more)
      (skipped ++ later) := by
  refine ⟨accounts.spans.andThen continued.spans join, ?_, ?_⟩
  · rw [List.map_append, ← accounts.reported, ← continued.reported, ← skippedMessages_append]
    rfl
  · simp only [List.map_append, undelimited_append]
    exact accounts.merges.append continued.merges

/-- A script keeps all that it takes, and a token that begins no item is skipped.
Declarations are excluded, because their tokens go to the tables and not to the arena. -/
theorem item_accounts (depth : Nat) (standing : cursor.current? = some token)
    (noVariable : token ≠ "var") (noList : token ≠ "list") :
    ∃ taken skipped, Accounts (item depth token cursor)
      ((item depth token cursor).value.toList.flatMap Item.contents) taken skipped := by
  by_cases event : token = "when"
  · subst event
    obtain ⟨taken, accounts⟩ := (chain_block_keeps.1 depth true cursor).accounts
    rw [item_when]
    refine ⟨taken, [], accounts.spans.map _, accounts.reported, ?_⟩
    simpa [Reading.map, Item.contents] using accounts.merges
  · have skips : item depth token cursor =
        ((Reading.stay none).warn ⟨.skippedToken, Text.quoted token⟩).thenAdvance := by
      simp [item, event, noVariable, noList]
    rw [skips]
    exact ⟨[token], [token], ((spans_stay none).warn _).thenAdvance standing, rfl, .refl_right _⟩

/-- Without declarations every token is kept by a script or skipped and reported. No token
that is still ahead declares anything either, so the induction goes on. -/
theorem items_account (depth : Nat) (cursor : Cursor Text)
    (noVariable : ("var" : Text) ∉ cursor.rest) (noList : ("list" : Text) ∉ cursor.rest) :
    ∃ skipped, Accounts (items depth cursor)
      ((items depth cursor).value.flatMap Item.contents) cursor.rest skipped := by
  induction cursor using items.induct depth with
  | case1 cursor ended =>
    rw [items_ended depth ended, List.head?_eq_none_iff.mp ended]
    exact ⟨[], spans_stay [], rfl, .nil⟩
  | case2 cursor token standing first inductionHypothesis =>
    have here : token ∈ cursor.rest := List.mem_of_mem_head? standing
    obtain ⟨taken, skipped, accounts⟩ := item_accounts depth standing
      (fun same => noVariable (same ▸ here)) (fun same => noList (same ▸ here))
    have ahead : cursor.rest = taken ++ first.cursor.rest := accounts.spans.ahead
    rw [ahead] at noVariable noList
    obtain ⟨later, continued⟩ := inductionHypothesis
      (fun member => noVariable (List.mem_append_right taken member))
      (fun member => noList (List.mem_append_right taken member))
    have both := accounts.andThen continued fun found rest => found.toList ++ rest
    rw [← ahead, ← List.flatMap_append] at both
    rw [items_with_item depth standing]
    exact ⟨skipped ++ later, both⟩

end Grammar

/-- Parsing moves over every token once and closes every brace that it opened. If
nothing is declared, then, delimiters aside, the tokens are those kept in the blocks
and those reported as skipped, merged in their order. -/
theorem parse_keeps_tokens {tokens : List Text} (nonempty : ∀ token ∈ tokens, token ≠ []) :
    ∃ parser, Parser.create tokens = .ok parser ∧
      parser.parse.cursor.position = tokens.length ∧
      parser.parse.braceDepth = 0 ∧
      (("var" : Text) ∉ tokens → ("list" : Text) ∉ tokens →
        (∃ skipped : List Text,
          skippedMessages parser.parse.warnings = skipped.map Text.quoted) ∧
        ∀ skipped : List Text,
          skippedMessages parser.parse.warnings = skipped.map Text.quoted →
          Merges (undelimited parser.parse.program.contents)
            (undelimited (skipped.map Literal.argument))
            (undelimited (tokens.map Literal.argument))) := by
  refine ⟨.ofTokens tokens, Parser.create_of_ne_nil nonempty, ?_, rfl, ?_⟩
  · exact (Grammar.items_span 0 { rest := tokens }).position.trans (Nat.zero_add _)
  · intro noVariable noList
    obtain ⟨skipped, _, messages, merges⟩ :=
      Grammar.items_account 0 { rest := tokens } noVariable noList
    have reported : skippedMessages (Parser.ofTokens tokens).parse.warnings =
        skipped.map Text.quoted := messages
    have kept : (Parser.ofTokens tokens).parse.program.contents =
        (Grammar.items 0 { rest := tokens }).value.flatMap Grammar.Item.contents :=
      Program.contents_addItems {} _
    refine ⟨⟨skipped, reported⟩, ?_⟩
    intro others also
    have same : skipped = others :=
      List.map_injective_iff.mpr (fun _ _ => Text.quoted_inj) (reported.symm.trans also)
    rw [kept, ← same]
    exact merges

/-- Of the tokens of `damaged` the stray one is skipped, and its script keeps the
others. -/
theorem parse_keeps_tokens_damaged :
    (∀ token ∈ damaged, token ≠ []) ∧ ("var" : Text) ∉ damaged ∧ ("list" : Text) ∉ damaged ∧
      ∃ parser, Parser.create damaged = .ok parser ∧ parser.parse.cursor.position = 7 ∧
        skippedMessages parser.parse.warnings = [Text.quoted "stray"] ∧
        Merges (undelimited parser.parse.program.contents)
          (undelimited [Literal.argument "stray"])
          (undelimited (damaged.map Literal.argument)) := by
  have nonempty : ∀ token ∈ damaged, token ≠ [] := by decide
  have noVariable : ("var" : Text) ∉ damaged := by decide
  have noList : ("list" : Text) ∉ damaged := by decide
  obtain ⟨parser, created, position, _, keeps⟩ := parse_keeps_tokens nonempty
  have skipped : skippedMessages parser.parse.warnings = [Text.quoted "stray"] := by
    rw [← Except.ok.inj ((Parser.create_of_ne_nil nonempty).symm.trans created),
      Grammar.damaged_warnings]
    rfl
  exact ⟨nonempty, noVariable, noList, parser, created, position, skipped,
    (keeps noVariable noList).2 ["stray"] skipped⟩

end SpriteScript
