import SpriteScript.Proofs.Retention

/-!
# Where the contents of a program come from

Every name that a parsed program declares is a token. The parts of its arguments are
what tokens denote, delimiters aside, and its initial values are those of tokens, or
zero. What is known of all tokens is thereby known of the program.
-/

namespace SpriteScript

/-- An item whose names and contents are among the tokens. Contents that only delimit a
block or an expression are left aside. -/
def Grammar.Item.DrawnFrom (tokens : List Text) : Grammar.Item → Prop
  | .script chain =>
    ∀ argument ∈ undelimited chain.contents, argument ∈ tokens.map Literal.argument
  | .declareVariable name _ => name ∈ tokens
  | .declareList name _ => name ∈ tokens

namespace Grammar

/-- What is drawn from some tokens is drawn from more, since tokens are only looked up
among them. -/
theorem Item.DrawnFrom.mono {item : Item} {tokens more : List Text}
    (drawn : item.DrawnFrom tokens) (among : ∀ token ∈ tokens, token ∈ more) :
    item.DrawnFrom more := by
  cases item with
  | script chain =>
    intro argument member
    obtain ⟨token, listed, same⟩ := List.mem_map.mp (drawn argument member)
    exact List.mem_map.mpr ⟨token, among token listed, same⟩
  | declareVariable name value => exact among name drawn
  | declareList name values => exact among name drawn

variable {cursor : Cursor Text}

/-- What a cursor stands on after a move is ahead of it. -/
theorem mem_rest_of_advance {name : Text} (standing : cursor.advance.current? = some name) :
    name ∈ cursor.rest :=
  List.mem_of_mem_tail (List.mem_of_mem_head? standing)

/-- An item is drawn from the tokens ahead. For a script this follows from the merge of
what is kept and what is dropped. -/
theorem item_drawn (depth : Nat) {token : Text} {found : Item}
    (member : found ∈ (item depth token cursor).value) : found.DrawnFrom cursor.rest := by
  unfold item at member
  split at member
  · cases member
    obtain ⟨⟨taken, spans, same⟩, _⟩ := chain_block_keeps.1 depth true cursor
    intro argument kept
    rw [← same] at kept
    obtain ⟨token, listed, denoted⟩ := List.mem_map.mp (List.mem_filter.mp kept).1
    refine List.mem_map.mpr ⟨token, ?_, denoted⟩
    rw [spans.ahead]
    exact List.mem_append_left _ listed
  split at member
  · unfold variableDeclaration at member
    split at member
    · cases member
    · rename_i named
      cases member
      exact mem_rest_of_advance named
  split at member
  · unfold listDeclaration at member
    split at member
    · cases member
    · rename_i named
      cases member
      exact mem_rest_of_advance named
  · cases member

/-- What holds of the item at every token, seen from the tokens ahead of it, holds of all
items, if it stays true when more tokens are ahead. -/
theorem items_each {holds : List Text → Item → Prop}
    (mono : ∀ {tokens more found}, (∀ token ∈ tokens, token ∈ more) → holds tokens found →
      holds more found)
    (step : ∀ depth token cursor, ∀ found ∈ (item depth token cursor).value,
      holds cursor.rest found)
    (depth : Nat) (cursor : Cursor Text) :
    ∀ found ∈ (items depth cursor).value, holds cursor.rest found := by
  induction cursor using items.induct depth with
  | case1 cursor ended =>
    rw [items_ended depth ended]
    exact List.forall_mem_nil _
  | case2 cursor token standing first inductionHypothesis =>
    rw [items_with_item depth standing]
    intro listed member
    simp only [Reading.andThen, List.mem_append, Option.mem_toList] at member
    rcases member with here | later
    · exact step depth token cursor listed here
    · obtain ⟨taken, spans⟩ := item_spans depth standing
      refine mono ?_ (inductionHypothesis listed later)
      intro token among
      rw [spans.ahead]
      exact List.mem_append_right taken among

/-- All items are drawn from the tokens ahead. -/
theorem items_drawn (depth : Nat) (cursor : Cursor Text) :
    ∀ found ∈ (items depth cursor).value, found.DrawnFrom cursor.rest :=
  items_each (fun among drawn => drawn.mono among) (fun depth _ _ _ => item_drawn depth) depth cursor

/-- A declaration whose values are those of the tokens, or zero. -/
def Item.ValuedFrom (tokens : List Text) : Item → Prop
  | .script _ => True
  | .declareVariable _ value => value = .number 0 ∨ value ∈ tokens.map Literal.value
  | .declareList _ values => ∀ value ∈ values, value ∈ tokens.map Literal.value

/-- An item with values from some tokens has values from more of them. -/
theorem Item.ValuedFrom.mono {item : Item} {tokens more : List Text}
    (among : ∀ token ∈ tokens, token ∈ more) (valued : item.ValuedFrom tokens) :
    item.ValuedFrom more := by
  have wider : ∀ value ∈ tokens.map Literal.value, value ∈ more.map Literal.value :=
    fun _ => (List.map_subset Literal.value among ·)
  cases item with
  | script chain => trivial
  | declareVariable name value => exact valued.imp_right (wider value)
  | declareList name values => exact fun value member => wider value (valued value member)

/-- A variable has the value of a token ahead, or zero. -/
theorem variableValue_valued (name : Text) (cursor : Cursor Text) :
    (variableValue name cursor).value = .number 0 ∨
      (variableValue name cursor).value ∈ cursor.rest.map Literal.value := by
  unfold variableValue
  split
  · exact .inl rfl
  · rename_i token standing
    split
    · dsimp only [Reading.since]
      split
      · exact .inl rfl
      · rename_i given
        exact .inr (List.mem_map_of_mem (mem_rest_of_advance given))
    · split
      · exact .inr (List.mem_map_of_mem (List.mem_of_mem_head? standing))
      · exact .inl rfl

/-- A list has the values of tokens ahead. -/
theorem listValues_valued (name : Text) (cursor : Cursor Text) :
    ∀ value ∈ (listValues name cursor).value, value ∈ cursor.rest.map Literal.value := by
  unfold listValues
  split
  · intro value member
    rw [Reading.since, expectStop_value] at member
    obtain ⟨token, listed, rfl⟩ := List.mem_map.mp member
    have ahead : token ∈ cursor.rest.tail := (List.takeWhile_sublist _).subset listed
    exact List.mem_map_of_mem (List.mem_of_mem_tail ahead)
  · exact List.forall_mem_nil _

/-- The values of an item come from the tokens that were ahead of it. -/
theorem item_valued (depth : Nat) (token : Text) (cursor : Cursor Text) :
    ∀ found ∈ (item depth token cursor).value, found.ValuedFrom cursor.rest := by
  have later : ∀ passed ∈ cursor.advance.advance.rest, passed ∈ cursor.rest :=
    fun _ member => List.mem_of_mem_tail (List.mem_of_mem_tail member)
  intro found member
  unfold item at member
  split at member
  · cases member
    trivial
  split at member
  · unfold variableDeclaration at member
    split at member
    · cases member
    · cases member
      exact Item.ValuedFrom.mono later (variableValue_valued _ _)
  split at member
  · unfold listDeclaration at member
    split at member
    · cases member
    · cases member
      exact Item.ValuedFrom.mono later (listValues_valued _ _)
  · cases member

end Grammar

namespace Program

/-- A program whose declared names and contents are among the tokens. Nothing in it is made
up by the parser. -/
structure DrawnFrom (program : Program) (tokens : List Text) : Prop where
  arguments : ∀ argument ∈ undelimited program.contents, argument ∈ tokens.map Literal.argument
  scalars : ∀ entry ∈ program.variableTable.entries, entry.1 ∈ tokens
  lists : ∀ entry ∈ program.listTable.entries, entry.1 ∈ tokens

/-- An item drawn from the tokens keeps the program drawn from them. Only the new blocks
and the one entry have to be looked at. -/
theorem DrawnFrom.addItem {program : Program} {tokens : List Text}
    (drawn : program.DrawnFrom tokens) {item : Grammar.Item} (added : item.DrawnFrom tokens) :
    (program.addItem item).DrawnFrom tokens := by
  cases item with
  | script chain =>
    refine ⟨?_, drawn.scalars, drawn.lists⟩
    rw [contents_addItem, undelimited_append]
    intro argument member
    exact (List.mem_append.mp member).elim (drawn.arguments argument) (added argument)
  | declareVariable name value =>
    refine ⟨drawn.arguments, ?_, drawn.lists⟩
    intro entry member
    rcases mem_of_mem_upsert member with rfl | earlier
    · exact added
    · exact drawn.scalars entry earlier
  | declareList name values =>
    refine ⟨drawn.arguments, drawn.scalars, ?_⟩
    intro entry member
    rcases mem_of_mem_upsert member with rfl | earlier
    · exact added
    · exact drawn.lists entry earlier

/-- Items drawn from the tokens keep the program drawn from them. The induction is on the
items. -/
theorem DrawnFrom.addItems {program : Program} {tokens : List Text}
    (drawn : program.DrawnFrom tokens) {items : List Grammar.Item}
    (added : ∀ item ∈ items, item.DrawnFrom tokens) :
    (items.foldl Program.addItem program).DrawnFrom tokens :=
  List.foldlRecOn (motive := fun program => program.DrawnFrom tokens) items Program.addItem drawn
    fun _ kept item member => kept.addItem (added item member)

/-- A parsed program is drawn from its tokens. So what holds of all tokens of a source
holds of its names and contents. -/
theorem drawnFrom_parse (tokens : List Text) : (parse tokens).DrawnFrom tokens := by
  have nothing : ({} : Program).DrawnFrom tokens :=
    ⟨nofun, by simp [Table.empty], by simp [Table.empty]⟩
  exact nothing.addItems (Grammar.items_drawn 0 { rest := tokens })

/-- A part of an argument of a parsed program is denoted by a token, or it only delimits. -/
theorem DrawnFrom.part_mem {program : Program} {tokens : List Text}
    (drawn : program.DrawnFrom tokens) {block : Block} (member : block ∈ program.blocks)
    {argument part : Argument} (given : argument ∈ block.args) (held : part ∈ argument.parts) :
    (∃ token ∈ tokens, Literal.argument token = part) ∨ ∃ value ∈ delimiters, .text value = part := by
  by_cases delimits : part.isDelimiter = true
  · right
    cases part with
    | text value => exact ⟨value, by simpa [Argument.isDelimiter] using delimits, rfl⟩
    | _ => cases delimits
  · left
    have kept : part ∈ program.contents := by
      refine List.mem_flatMap.mpr ⟨block, member, List.mem_cons_of_mem _ ?_⟩
      exact List.mem_flatMap.mpr ⟨argument, given, held⟩
    have denoted := drawn.arguments part (List.mem_filter.mpr ⟨kept, by simpa using delimits⟩)
    exact List.mem_map.mp denoted

/-- A text among the parts of arguments is a token, or it only delimits. A token that
denotes a number is no such text. -/
theorem DrawnFrom.text_mem {program : Program} {tokens : List Text}
    (drawn : program.DrawnFrom tokens) {block : Block} (member : block ∈ program.blocks)
    {argument : Argument} {value : Text} (given : argument ∈ block.args)
    (held : .text value ∈ argument.parts) : value ∈ tokens ∨ value ∈ delimiters := by
  rcases drawn.part_mem member given held with ⟨token, listed, same⟩ | ⟨delimiter, listed, same⟩
  · unfold Literal.argument at same
    split at same
    · cases same
    · cases same
      exact .inl listed
  · cases same
    exact .inr listed

/-- What a program declares after some items it declared before, or one of them does. A
later declaration of a name may have replaced the value of an earlier one. -/
theorem declared_addItems (program : Program) (items : List Grammar.Item) :
    (∀ entry ∈ (items.foldl addItem program).variableTable.entries,
      entry ∈ program.variableTable.entries ∨ .declareVariable entry.1 entry.2 ∈ items) ∧
    ∀ entry ∈ (items.foldl addItem program).listTable.entries,
      entry ∈ program.listTable.entries ∨ .declareList entry.1 entry.2 ∈ items := by
  induction items generalizing program with
  | nil => exact ⟨fun _ => .inl, fun _ => .inl⟩
  | cons item rest inductionHypothesis =>
    obtain ⟨scalars, lists⟩ := inductionHypothesis (program.addItem item)
    constructor
    · intro entry member
      rcases scalars entry member with before | later
      · cases item with
        | declareVariable name value =>
          rcases mem_of_mem_upsert before with rfl | earlier
          · exact .inr List.mem_cons_self
          · exact .inl earlier
        | _ => exact .inl before
      · exact .inr (List.mem_cons_of_mem _ later)
    · intro entry member
      rcases lists entry member with before | later
      · cases item with
        | declareList name values =>
          rcases mem_of_mem_upsert before with rfl | earlier
          · exact .inr List.mem_cons_self
          · exact .inl earlier
        | _ => exact .inl before
      · exact .inr (List.mem_cons_of_mem _ later)

/-- The values of a parsed program are those of its tokens, or zero. -/
theorem valued_parse (tokens : List Text) :
    (∀ entry ∈ (parse tokens).variableTable.entries,
      entry.2 = .number 0 ∨ entry.2 ∈ tokens.map Literal.value) ∧
    ∀ entry ∈ (parse tokens).listTable.entries, ∀ value ∈ entry.2,
      value ∈ tokens.map Literal.value := by
  have valued : ∀ found ∈ (Grammar.items 0 { rest := tokens }).value, found.ValuedFrom tokens :=
    @Grammar.items_each Grammar.Item.ValuedFrom Grammar.Item.ValuedFrom.mono Grammar.item_valued 0
      { rest := tokens }
  obtain ⟨scalars, lists⟩ := declared_addItems {} (Grammar.items 0 { rest := tokens }).value
  constructor
  · intro entry member
    rcases scalars entry member with nothing | listed
    · cases nothing
    · exact valued _ listed
  · intro entry member
    rcases lists entry member with nothing | listed
    · cases nothing
    · exact valued _ listed

end Program

end SpriteScript
