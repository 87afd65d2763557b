import SpriteScript.Proofs.Preorder
import SpriteScript.Proofs.Writability

/-!
# Parsed contents are finite

A token denotes a number only if that number is finite. All arguments and initial
values of a parsed program are what tokens denote, or expressions of these, or
zero. So they can all be written, whatever the tokens were.

Parsed contents are less than the finite ones. No token is read as an integer, and
the name of a block is the word of its keyword. What is said here about a parsed
program is therefore that it is plain, and that it is finite follows.
-/

namespace SpriteScript

/-- An argument as tokens give it: a finite number, a text, or an expression of such
arguments. A finite argument may also be an integer, which no token is read as. -/
inductive Argument.Plain : Argument → Prop where
  | number (value : Float) (finite : Decimal.isFinite value = true) : Plain (.number value)
  | text (value : Text) : Plain (.text value)
  | expression (parts : List Argument) (each : ∀ part ∈ parts, Plain part) :
      Plain (.expression parts)

/-- What tokens give can be written. -/
theorem Argument.Plain.finite {argument : Argument} (plain : argument.Plain) :
    argument.Finite := by
  induction plain with
  | number value finite => exact .number value finite
  | text value => exact .text value
  | expression parts _ inductionHypothesis => exact .expression parts inductionHypothesis

/-- A program with the contents that tokens give. Its blocks are named by texts, so
their names can be written too. -/
structure Program.Plain (program : Program) : Prop where
  names : ∀ block ∈ program.blocks, ∃ word, block.name = .text word
  arguments : ∀ block ∈ program.blocks, ∀ argument ∈ block.args, argument.Plain
  scalars : ∀ entry ∈ program.variableTable.entries, entry.2.Finite
  lists : ∀ entry ∈ program.listTable.entries, ∀ value ∈ entry.2, value.Finite

/-- Nothing in a plain program is too long or not finite. -/
theorem Program.Plain.finite {program : Program} (plain : program.Plain) : program.Finite := by
  refine ⟨?_, ?_, plain.scalars, plain.lists⟩
  · intro block member
    obtain ⟨word, named⟩ := plain.names block member
    rw [named]
    rfl
  · intro block member argument given
    exact (plain.arguments block member argument given).finite

/-- The numbers that tokens denote are finite. A token that would be infinite is read
as a text. -/
theorem Literal.number?_finite {token : Text} {number : Float}
    (denoted : Literal.number? token = some number) : Decimal.isFinite number = true := by
  unfold Literal.number? at denoted
  split at denoted
  · cases denoted
  · split at denoted
    · rename_i finite
      exact Option.some.inj denoted ▸ finite
    · cases denoted

/-- A token is an argument by the number that it denotes or by itself. Either way it is
plain. -/
theorem Literal.argument_plain (token : Text) : (Literal.argument token).Plain := by
  unfold Literal.argument
  split
  · rename_i number denoted
    exact .number number (number?_finite denoted)
  · exact .text token

/-- A token is a value by the number that it denotes or by the text in its quotes. -/
theorem Literal.value_finite (token : Text) : (Literal.value token).Finite := by
  unfold Literal.value
  split
  · rename_i number denoted
    exact .number number (number?_finite denoted)
  · exact .text _

namespace Grammar

/-- The parts of an expression are what its tokens denote. There are no expressions among
them. -/
theorem expression_plain (cursor : Cursor Text) :
    ∀ part ∈ (expression cursor).value, part.Plain := by
  intro part member
  rw [expression, expectStop_value] at member
  obtain ⟨token, _, rfl⟩ := List.mem_map.mp member
  exact Literal.argument_plain token

/-- Arguments are plain wherever they end. The induction is along their tokens: each
step reads a literal or a whole expression. -/
theorem arguments_plain (depth : Nat) (scope : Bool) (cursor : Cursor Text) :
    ∀ argument ∈ (arguments depth scope cursor).value, argument.Plain := by
  induction cursor using arguments.induct depth scope with
  | case1 cursor ended =>
    rw [arguments_ended depth scope (by simp [ended])]
    simp [Reading.stay]
  | case2 cursor token standing ends =>
    rw [arguments_ended depth scope (by simp [standing, ends])]
    simp [Reading.stay]
  | case3 cursor token standing continued opening inner inductionHypothesis =>
    rw [beq_iff_eq.mp opening] at standing continued
    rw [arguments_expression depth scope standing (by simpa using continued)]
    intro argument member
    rcases List.mem_cons.mp member with rfl | later
    · exact .expression _ (expression_plain cursor.advance)
    · exact inductionHypothesis argument later
  | case4 cursor token standing continued single inductionHypothesis =>
    rw [arguments_literal depth scope standing (by simpa using continued) (by simpa using single)]
    intro argument member
    rcases List.mem_cons.mp member with rfl | later
    · exact Literal.argument_plain token
    · exact inductionHypothesis argument later

/-- A chain holds plain arguments only, at any depth: they are read in front of the body
and do not depend on what follows. -/
theorem chain_plain (depth : Nat) (event : Bool) (cursor : Cursor Text) :
    (chain depth event cursor).value.Each fun _ args _ => ∀ argument ∈ args, argument.Plain := by
  have step : ∀ depth keyword cursor,
      ∀ argument ∈ (block depth keyword cursor).value.1, argument.Plain := by
    intro depth keyword cursor
    rw [block_value_args]
    exact arguments_plain depth keyword.isScope cursor
  obtain ⟨chains, bodies⟩ := @each_of_block (fun _ args _ => ∀ argument ∈ args, argument.Plain)
    fun depth keyword cursor _ => step depth keyword cursor
  cases event with
  | false => exact chains depth false cursor rfl
  | true =>
    cases standing : keyword? cursor with
    | none =>
      rw [chain_without_keyword depth true standing]
      trivial
    | some keyword =>
      rw [chain_with_block depth true standing (by simp)]
      exact ⟨step depth keyword _, bodies depth keyword _, chains depth false _ rfl⟩

/-- A variable has the value of a token, or zero if it is declared without one. -/
theorem variableValue_finite (name : Text) (cursor : Cursor Text) :
    (variableValue name cursor).value.Finite := by
  have zero : (Value.number 0).Finite := .number 0 rfl
  unfold variableValue
  split
  · exact zero
  · rename_i token _
    split
    · dsimp only [Reading.since]
      split
      · exact zero
      · exact Literal.value_finite _
    · split
      · exact Literal.value_finite token
      · exact zero

/-- A list has the values of tokens. -/
theorem listValues_finite (name : Text) (cursor : Cursor Text) :
    ∀ value ∈ (listValues name cursor).value, value.Finite := by
  unfold listValues
  split
  · intro value member
    rw [Reading.since, expectStop_value] at member
    obtain ⟨token, _, rfl⟩ := List.mem_map.mp member
    exact Literal.value_finite token
  · simp [Reading.stay]

/-- An item whose arguments are all plain, or whose values are all finite. -/
def Item.Plain : Item → Prop
  | .script chain => chain.Each fun _ args _ => ∀ argument ∈ args, argument.Plain
  | .declareVariable _ value => value.Finite
  | .declareList _ values => ∀ value ∈ values, value.Finite

/-- All that is read from tokens is plain, wherever the reading starts. -/
theorem items_plain (depth : Nat) (cursor : Cursor Text) :
    ∀ found ∈ (items depth cursor).value, found.Plain := by
  apply items_all
  intro depth token cursor standing found member
  rcases item_cases depth standing member with ⟨_, rfl⟩ | ⟨name, place, rfl⟩ | ⟨name, place, rfl⟩
  · exact chain_plain depth true cursor
  · exact variableValue_finite name place
  · exact listValues_finite name place

end Grammar

/-- Entering a name leaves the other entries as they were. The entry of the name itself is
replaced. -/
theorem mem_of_mem_upsert {α : Type} {key : Text} {value : α} {entries : List (Text × α)}
    {entry : Text × α} (member : entry ∈ upsert key value entries) :
    entry = (key, value) ∨ entry ∈ entries := by
  induction entries with
  | nil => exact .inl (List.mem_singleton.mp member)
  | cons first rest inductionHypothesis =>
    obtain ⟨other, old⟩ := first
    by_cases same : other = key
    · rw [upsert, if_pos same] at member
      exact (List.mem_cons.mp member).imp_right (List.mem_cons_of_mem _)
    · rw [upsert, if_neg same] at member
      rcases List.mem_cons.mp member with here | later
      · exact .inr (here ▸ List.mem_cons_self)
      · exact (inductionHypothesis later).imp_right (List.mem_cons_of_mem _)

namespace Program

/-- One plain item keeps a program plain. A script brings blocks with the words of their
keywords as names, and a declaration replaces at most one entry. -/
theorem Plain.addItem {program : Program} (plain : program.Plain) {item : Grammar.Item}
    (added : item.Plain) : (program.addItem item).Plain := by
  cases item with
  | script chain =>
    have new : ∀ block ∈ chain.layout program.blocks.length,
        (∃ word, block.name = .text word) ∧ ∀ argument ∈ block.args, argument.Plain := by
      intro block member
      obtain ⟨keyword, _, _, arguments, _, named, _⟩ := Chain.Each.of_mem_layout added _ member
      exact ⟨⟨keyword.word, named⟩, arguments⟩
    refine ⟨?_, ?_, plain.scalars, plain.lists⟩
    · intro block member
      exact (List.mem_append.mp member).elim (plain.names block) fun late => (new block late).1
    · intro block member
      exact (List.mem_append.mp member).elim (plain.arguments block) fun late => (new block late).2
  | declareVariable name value =>
    refine ⟨plain.names, plain.arguments, ?_, plain.lists⟩
    intro entry member
    rcases mem_of_mem_upsert member with rfl | earlier
    · exact added
    · exact plain.scalars entry earlier
  | declareList name values =>
    refine ⟨plain.names, plain.arguments, plain.scalars, ?_⟩
    intro entry member
    rcases mem_of_mem_upsert member with rfl | earlier
    · exact added
    · exact plain.lists entry earlier

/-- Items that are added one after the other keep a program plain. -/
theorem Plain.addItems {program : Program} (plain : program.Plain) {items : List Grammar.Item}
    (added : ∀ item ∈ items, item.Plain) : (items.foldl Program.addItem program).Plain :=
  List.foldlRecOn items Program.addItem plain
    fun _ kept item member => kept.addItem (added item member)

end Program

/-- A parsed program is plain, whatever the tokens were. In particular nothing in it is too
long to be written. -/
theorem parse_plain (tokens : List Text) : (parse tokens).Plain := by
  have nothing : ({} : Program).Plain :=
    ⟨by simp, by simp, by simp [Table.empty], by simp [Table.empty]⟩
  exact nothing.addItems (Grammar.items_plain 0 { rest := tokens })

end SpriteScript
