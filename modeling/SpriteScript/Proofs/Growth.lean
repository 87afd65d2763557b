import SpriteScript.Proofs.Retention

/-!
# Parsers only add to what they have built

Each operation of a parser may be called at any place: in the middle of an
expression, on a token that it does not expect, and beyond the last token. Whatever
the calls are and in whatever order they come, a call moves forward, leaves the
number of open braces, and adds to the end of the arena, of the scripts and of the
warnings. It changes nothing that was there.

The blocks that one call adds are a forest of their own. Their links lead forward
and not beyond them, and no two of the links lead to the same block. Forests that
stand side by side are one forest, so the whole arena is one after every call.
-/

namespace SpriteScript

/-- The link leads somewhere. Whether there is a block where it leads to is another
question, which the arena decides. -/
def Datum.leads : Datum → Bool
  | .null => false
  | _ => true

/-- The links of a block that lead somewhere, to its body first. Links that lead nowhere
are left out, since many blocks share those. -/
def Block.links (block : Block) : List Datum :=
  [block.body, block.next].filter Datum.leads

/-- Blocks that stand in an arena from the place `start` on. Every link of one leads to a
later one of them, and to each leads one link at most. So there are no cycles, no shared
blocks and no links out of the part that was added. -/
structure Forest (start : Nat) (blocks : List Block) : Prop where
  forward : ∀ offset block, blocks[offset]? = some block → ∀ link ∈ block.links,
    ∃ target : Nat, link = .int target ∧ start + offset < target ∧
      target < start + blocks.length
  single : (blocks.flatMap Block.links).Nodup

namespace Forest

variable {start : Nat} {blocks more : List Block}

/-- No blocks are a forest, wherever they would stand. This is what a call that adds
nothing has added. -/
theorem nil (start : Nat) : Forest start [] where
  forward := nofun
  single := List.nodup_nil

/-- The places that links lead to lie behind the first block and before the end. So no link
leads to a first block, whatever stands before it. -/
theorem target (forest : Forest start blocks) {link : Datum}
    (member : link ∈ blocks.flatMap Block.links) :
    ∃ target : Nat, link = .int target ∧ start < target ∧ target < start + blocks.length := by
  obtain ⟨block, listed, linked⟩ := List.mem_flatMap.mp member
  obtain ⟨offset, found⟩ := List.getElem?_of_mem listed
  obtain ⟨target, same, later, inside⟩ := forest.forward offset block found link linked
  exact ⟨target, same, by omega, inside⟩

/-- Two forests side by side are one. The links of the first end before those of the second
begin, so none leads to a block that a link of the other leads to. -/
theorem append (first : Forest start blocks) (second : Forest (start + blocks.length) more) :
    Forest start (blocks ++ more) := by
  constructor
  · intro offset block found link member
    rw [List.length_append]
    by_cases earlier : offset < blocks.length
    · rw [List.getElem?_append_left earlier] at found
      obtain ⟨target, same, later, inside⟩ := first.forward offset block found link member
      exact ⟨target, same, later, by omega⟩
    · rw [List.getElem?_append_right (Nat.le_of_not_lt earlier)] at found
      obtain ⟨target, same, later, inside⟩ := second.forward _ block found link member
      exact ⟨target, same, by omega, by omega⟩
  · rw [List.flatMap_append]
    apply List.nodup_append'.mpr
    refine ⟨first.single, second.single, ?_⟩
    intro link here there
    obtain ⟨target, same, _, inside⟩ := first.target here
    obtain ⟨other, again, behind, _⟩ := second.target there
    rw [same] at again
    cases again
    omega

/-- A block in front of a forest, whose links lead into it and to no block that another
link leads to. A chain begins with such a block: the roots of its body and of what follows
are led to by nothing else. -/
theorem cons {block : Block} (forest : Forest (start + 1) blocks)
    (forward : ∀ link ∈ block.links, ∃ target : Nat, link = .int target ∧ start < target ∧
      target < start + 1 + blocks.length)
    (distinct : block.links.Nodup)
    (fresh : ∀ link ∈ block.links, link ∉ blocks.flatMap Block.links) :
    Forest start (block :: blocks) := by
  constructor
  · intro offset stored found link member
    rw [List.length_cons]
    cases offset with
    | zero =>
      cases found
      obtain ⟨target, same, later, inside⟩ := forward link member
      exact ⟨target, same, later, by omega⟩
    | succ offset =>
      obtain ⟨target, same, later, inside⟩ := forest.forward offset stored found link member
      exact ⟨target, same, by omega, by omega⟩
  · rw [List.flatMap_cons]
    exact List.nodup_append'.mpr ⟨distinct, forest.single, fresh⟩

end Forest

namespace Chain

/-- The link to a chain leads to its first block, if it leads anywhere. In that case there
is a first block, and the chain takes up a place. -/
theorem link_leads {chain : Chain} {index : Nat} (leads : (chain.link index).leads = true) :
    chain.link index = .int index ∧ 0 < chain.size := by
  cases chain with
  | done => cases leads
  | block keyword args body next =>
    refine ⟨rfl, ?_⟩
    rw [size]
    omega

/-- A chain is laid out as a forest, from any place on. The induction is on the chain: the
first block has the only links to its body and to what follows, and all other links to
blocks of the body stay inside of it. -/
theorem forest_layout (chain : Chain) (index : Nat) : Forest index (chain.layout index) := by
  induction chain generalizing index with
  | done => exact .nil index
  | block keyword args body next bodyHypothesis nextHypothesis =>
    have inside := bodyHypothesis (index + 1)
    have after := nextHypothesis (index + 1 + body.size)
    have rest : Forest (index + 1)
        (body.layout (index + 1) ++ next.layout (index + 1 + body.size)) := by
      apply inside.append
      rw [length_layout]
      exact after
    have links : ∀ link ∈ [body.link (index + 1), next.link (index + 1 + body.size)].filter
        Datum.leads, (link = .int (index + 1 : Nat) ∧ 0 < body.size) ∨
          (link = .int (index + 1 + body.size : Nat) ∧ 0 < next.size) := by
      intro link member
      obtain ⟨listed, leads⟩ := List.mem_filter.mp member
      rcases List.mem_pair.mp listed with rfl | rfl
      · exact .inl (link_leads leads)
      · exact .inr (link_leads leads)
    have distinct : ([body.link (index + 1), next.link (index + 1 + body.size)].filter
        Datum.leads).Nodup := by
      by_cases bodied : (body.link (index + 1)).leads = true
      · by_cases followed : (next.link (index + 1 + body.size)).leads = true
        · obtain ⟨here, filled⟩ := link_leads bodied
          obtain ⟨there, _⟩ := link_leads followed
          have apart : body.link (index + 1) ≠ next.link (index + 1 + body.size) := by
            rw [here, there]
            intro same
            have places := Int.ofNat.inj (Datum.int.inj same)
            omega
          simp [bodied, followed, apart]
        · simp [bodied, followed]
      · rw [List.filter_cons_of_neg bodied]
        exact (List.nodup_singleton _).filter _
    refine rest.cons ?_ distinct ?_
    · intro link member
      rw [List.length_append, length_layout, length_layout]
      rcases links link member with ⟨same, filled⟩ | ⟨same, filled⟩
      · exact ⟨_, same, by omega, by omega⟩
      · exact ⟨_, same, by omega, by omega⟩
    · intro link member
      rw [List.flatMap_append, List.mem_append]
      rintro (here | there)
      · obtain ⟨target, same, behind, before⟩ := inside.target here
        rw [length_layout] at before
        rcases links link member with ⟨again, _⟩ | ⟨again, _⟩
        · rw [again] at same
          cases same
          omega
        · rw [again] at same
          cases same
          omega
      · obtain ⟨target, same, behind, _⟩ := after.target there
        rcases links link member with ⟨again, _⟩ | ⟨again, _⟩
        · rw [again] at same
          cases same
          omega
        · rw [again] at same
          cases same
          omega

end Chain

namespace Cursor

variable {α : Type} {cursor later : Cursor α}

/-- The later cursor was reached by moving forward, perhaps beyond the end. What is ahead
of it is then a part of what was ahead before. -/
def Moves (cursor later : Cursor α) : Prop :=
  ∃ count, later = cursor.skip count

/-- A call that reads nothing has moved by no token. -/
theorem Moves.refl (cursor : Cursor α) : cursor.Moves cursor :=
  ⟨0, rfl⟩

/-- To step over a token is to move, even if there is none left. -/
theorem moves_advance (cursor : Cursor α) : cursor.Moves cursor.advance :=
  ⟨1, by rw [skip, List.drop_one, advance]⟩

/-- Moves in a row are one move over all that the single ones passed. -/
theorem Moves.trans {last : Cursor α} (first : cursor.Moves later) (second : later.Moves last) :
    cursor.Moves last := by
  obtain ⟨count, rfl⟩ := first
  obtain ⟨more, rfl⟩ := second
  exact ⟨count + more, by simp [skip, Nat.add_assoc]⟩

/-- A move never goes back: positions are counted upward, also beyond the end. -/
theorem Moves.position_le (moves : cursor.Moves later) : cursor.position ≤ later.position := by
  obtain ⟨count, rfl⟩ := moves
  exact Nat.le_add_right _ _

/-- A cursor that stands in a sequence still does after it was moved: its position tells
what is ahead. Beyond the end that is nothing. -/
theorem Moves.rest_eq (moves : cursor.Moves later) {items : List α}
    (stands : cursor.rest = items.drop cursor.position) :
    later.rest = items.drop later.position := by
  obtain ⟨count, rfl⟩ := moves
  simp [skip, stands]

end Cursor

namespace Grammar

variable {α : Type} {start : Cursor Text}

/-- A reading moves over what it takes. The tokens that it took were ahead of it, and it
has counted each. -/
theorem Spans.moves {reading : Reading α start} {taken : List Text}
    (spans : Spans reading taken) : start.Moves reading.cursor := by
  refine ⟨taken.length, ?_⟩
  rw [Cursor.skip, spans.ahead, List.drop_left, ← spans.position]

/-- A reading that accounts for each token has moved over all of them. -/
theorem Keeps.moves {reading : Reading α start} {contents : List Argument}
    (keeps : Keeps reading contents) : start.Moves reading.cursor := by
  obtain ⟨⟨taken, spans, _⟩, _⟩ := keeps
  exact spans.moves

/-- Whether a body is closed or not, reading it does not go back. A missing brace is
reported where the reading stands, and a brace is stepped over. -/
theorem closing_moves (name : Datum) {body : Reading α start} (moves : start.Moves body.cursor) :
    start.Moves (closing name body).cursor := by
  rw [closing]
  split
  · exact moves.trans body.cursor.moves_advance
  · exact moves

/-- The reading of a variable moves over its name and its value, if they are there. Without
a name it stays in place. -/
theorem variableDeclaration_moves (cursor : Cursor Text) :
    cursor.Moves (variableDeclaration cursor).cursor := by
  obtain ⟨taken, spans⟩ := variableDeclaration_spans cursor
  exact spans.moves

/-- The reading of a list moves over its name and its values, if they are there. -/
theorem listDeclaration_moves (cursor : Cursor Text) :
    cursor.Moves (listDeclaration cursor).cursor := by
  obtain ⟨taken, spans⟩ := listDeclaration_spans cursor
  exact spans.moves

/-- A variable declaration declares a variable or nothing, and no script in particular. -/
theorem variableDeclaration_value {cursor : Cursor Text} {found : Item}
    (member : found ∈ (variableDeclaration cursor).value) :
    ∃ name value, found = .declareVariable name value := by
  rw [variableDeclaration] at member
  split at member
  · cases member
  · cases member
    exact ⟨_, _, rfl⟩

/-- A list declaration declares a list or nothing, and no script in particular. -/
theorem listDeclaration_value {cursor : Cursor Text} {found : Item}
    (member : found ∈ (listDeclaration cursor).value) :
    ∃ name values, found = .declareList name values := by
  rw [listDeclaration] at member
  split at member
  · cases member
  · cases member
    exact ⟨_, _, rfl⟩

end Grammar

namespace Program

/-- A program to which blocks and scripts were added at the end. The new blocks are a
forest of their own: their links stay among them. -/
structure Grows (before after : Program) : Prop where
  blocks : ∃ added, after.blocks = before.blocks ++ added ∧ Forest before.blocks.length added
  scripts : before.scripts <+: after.scripts

/-- A program grows by nothing if it stays as it is. -/
theorem Grows.refl (program : Program) : program.Grows program where
  blocks := ⟨[], (List.append_nil _).symm, .nil _⟩
  scripts := List.prefix_rfl

/-- A program that grows twice has grown by both parts. Their forests stand side by side,
for the second begins where the first ends. -/
theorem Grows.trans {first second third : Program} (grows : first.Grows second)
    (more : second.Grows third) : first.Grows third := by
  obtain ⟨⟨added, blocks, forest⟩, scripts⟩ := grows
  obtain ⟨⟨later, laterBlocks, laterForest⟩, laterScripts⟩ := more
  refine ⟨⟨added ++ later, ?_, ?_⟩, scripts.trans laterScripts⟩
  · rw [laterBlocks, blocks, List.append_assoc]
  · rw [blocks, List.length_append] at laterForest
    exact forest.append laterForest

/-- A chain is added as its layout, behind all blocks that were there. -/
theorem grows_addChain (program : Program) (chain : Chain) :
    program.Grows (program.addChain chain) where
  blocks := ⟨_, rfl, chain.forest_layout _⟩
  scripts := List.prefix_rfl

/-- An item adds a script with its blocks, or a declaration. Declarations may replace an
earlier one of the same name, which is why they are not said to be kept. -/
theorem grows_addItem (program : Program) (item : Grammar.Item) :
    program.Grows (program.addItem item) := by
  cases item with
  | script chain => exact ⟨(program.grows_addChain chain).blocks, List.prefix_append _ _⟩
  | declareVariable name value => exact ⟨(Grows.refl program).blocks, List.prefix_rfl⟩
  | declareList name values => exact ⟨(Grows.refl program).blocks, List.prefix_rfl⟩

/-- Items that are added one after the other only add. -/
theorem grows_addItems (program : Program) (items : List Grammar.Item) :
    program.Grows (items.foldl Program.addItem program) :=
  List.foldlRecOn items Program.addItem (.refl program)
    fun _ grows item _ => grows.trans (grows_addItem _ item)

end Program

namespace Parser

/-- What a call does to a parser at most: it moves forward and adds to the program and to
the warnings. As many braces are open after the call as before it. -/
structure Grows (before after : Parser) : Prop where
  cursor : before.cursor.Moves after.cursor
  depth : after.braceDepth = before.braceDepth
  program : before.program.Grows after.program
  warnings : before.warnings <+: after.warnings

/-- A call that does nothing has grown the parser by nothing. -/
theorem Grows.refl (parser : Parser) : parser.Grows parser where
  cursor := .refl _
  depth := rfl
  program := .refl _
  warnings := List.prefix_rfl

/-- Calls in a row do together what each of them does at most. -/
theorem Grows.trans {first second third : Parser} (grows : first.Grows second)
    (more : second.Grows third) : first.Grows third where
  cursor := grows.cursor.trans more.cursor
  depth := more.depth.trans grows.depth
  program := grows.program.trans more.program
  warnings := grows.warnings.trans more.warnings

/-- To accept a reading is to move to where it stopped and to take over its warnings. What
was read is added by a step of its own. -/
theorem grows_accept {α : Type} {start : Cursor Text} (parser : Parser)
    {reading : Grammar.Reading α start} (moves : parser.cursor.Moves reading.cursor) :
    parser.Grows (parser.accept reading) where
  cursor := moves
  depth := rfl
  program := .refl _
  warnings := List.prefix_append _ _

/-- To add a chain that was read is to add its blocks. The parser does not move. -/
theorem grows_addChain (parser : Parser) (chain : Chain) : parser.Grows (parser.addChain chain).2 where
  cursor := .refl _
  depth := rfl
  program := parser.program.grows_addChain chain
  warnings := List.prefix_rfl

/-- A reading that moves forward, and the items that come of it. Declarations and whole
sources are read in this way. -/
theorem grows_items {α : Type} {start : Cursor Text} (parser : Parser)
    {reading : Grammar.Reading α start} (moves : parser.cursor.Moves reading.cursor)
    (items : List Grammar.Item) :
    parser.Grows { parser.accept reading with
      program := items.foldl Program.addItem parser.program } where
  cursor := moves
  depth := rfl
  program := parser.program.grows_addItems items
  warnings := List.prefix_append _ _

/-- A call of an operation of a parser, with what it is given. Nothing ties a call to the
token that the parser stands on. -/
inductive Call where
  | script
  | chain (event : Bool)
  | block (event : Bool)
  | bracedBody (name : Datum)
  | arguments (scope : Bool)
  | expression
  | variableDeclaration
  | listDeclaration
  | advance
  | parse

/-- The parser after a call. What the call returns is left out here. -/
def Call.perform (parser : Parser) : Call → Parser
  | .script => parser.script.2
  | .chain event => (parser.chain event).2
  | .block event => (parser.block event).2
  | .bracedBody name => (parser.bracedBody name).2
  | .arguments scope => (parser.arguments scope).2
  | .expression => parser.expression.2
  | .variableDeclaration => parser.variableDeclaration
  | .listDeclaration => parser.listDeclaration
  | .advance => parser.advance
  | .parse => parser.parse

/-- The parser after several calls in their order. -/
def performAll (parser : Parser) (calls : List Call) : Parser :=
  calls.foldl Call.perform parser

/-- A chain is read from where the parser stands, and added if it has blocks. -/
theorem grows_chain (parser : Parser) (event : Bool) : parser.Grows (parser.chain event).2 := by
  have moves := (Grammar.chain_block_keeps.1 parser.braceDepth event parser.cursor).moves
  exact (parser.grows_accept moves).trans (grows_addChain _ _)

/-- A block is read only from a keyword, and an event only where it is allowed. Otherwise
the call does nothing. -/
theorem grows_block (parser : Parser) (event : Bool) : parser.Grows (parser.block event).2 := by
  rw [block]
  split
  · exact .refl parser
  · rename_i keyword _
    split
    · exact .refl parser
    · have moves :=
        (Grammar.chain_block_keeps.2 parser.braceDepth keyword parser.cursor.advance).moves
      have grows := parser.grows_accept (parser.cursor.moves_advance.trans moves)
      exact grows.trans (grows_addChain _ _)

/-- A body in braces is read behind a token that is taken for the opening brace without
being looked at. The closing brace may be missing. -/
theorem grows_bracedBody (parser : Parser) (name : Datum) :
    parser.Grows (parser.bracedBody name).2 := by
  have inside :=
    (Grammar.chain_block_keeps.1 (parser.braceDepth + 1) false parser.cursor.advance).moves
  have moves := parser.cursor.moves_advance.trans (Grammar.closing_moves name inside)
  exact (parser.grows_accept moves).trans (grows_addChain _ _)

/-- Every call only adds, one case for each operation. Each reads first, which moves
forward, and then adds what was read. -/
theorem grows_perform (parser : Parser) (call : Call) : parser.Grows (call.perform parser) := by
  have ahead := parser.cursor.moves_advance
  cases call with
  | script => exact parser.grows_chain true
  | chain event => exact parser.grows_chain event
  | block event => exact parser.grows_block event
  | bracedBody name => exact parser.grows_bracedBody name
  | arguments scope =>
    exact parser.grows_accept
      (Grammar.arguments_keeps parser.braceDepth scope parser.cursor).moves
  | expression =>
    exact parser.grows_accept (ahead.trans (Grammar.expression_keeps parser.cursor.advance).moves)
  | variableDeclaration =>
    exact parser.grows_items (ahead.trans (Grammar.variableDeclaration_moves _)) _
  | listDeclaration =>
    exact parser.grows_items (ahead.trans (Grammar.listDeclaration_moves _)) _
  | advance => exact ⟨ahead, rfl, .refl _, List.prefix_rfl⟩
  | parse =>
    exact parser.grows_items (Grammar.items_span parser.braceDepth parser.cursor).moves _

/-- Declarations leave the scripts as they are, and so does the lack of one. -/
theorem scripts_addItem {start : Cursor Text} (parser : Parser)
    {reading : Grammar.Reading (Option Grammar.Item) start}
    (declares : ∀ found ∈ reading.value, ∀ program : Program,
      (program.addItem found).scripts = program.scripts) :
    (parser.addItem reading).program.scripts = parser.program.scripts := by
  rw [addItem]
  cases given : reading.value with
  | none => rfl
  | some found => exact declares found given parser.program

/-- Only the reading of a whole source adds scripts. A script that is read on its own
returns its root and leaves it to the caller. -/
theorem scripts_perform (parser : Parser) {call : Call} (partly : call ≠ .parse) :
    (call.perform parser).program.scripts = parser.program.scripts := by
  cases call with
  | block event =>
    rw [Call.perform, block]
    split
    · rfl
    · split <;> rfl
  | variableDeclaration =>
    apply parser.scripts_addItem
    intro found member program
    obtain ⟨name, value, rfl⟩ := Grammar.variableDeclaration_value member
    rfl
  | listDeclaration =>
    apply parser.scripts_addItem
    intro found member program
    obtain ⟨name, values, rfl⟩ := Grammar.listDeclaration_value member
    rfl
  | parse => exact absurd rfl partly
  | _ => rfl

/-- What is true of a parser for a token list after any calls: its place tells what is
ahead of it, and the whole arena is a forest. Calls at odd places cannot break it. -/
structure Sound (tokens : List Text) (parser : Parser) : Prop where
  ahead : parser.cursor.rest = tokens.drop parser.cursor.position
  forest : Forest 0 parser.program.blocks

/-- A parser begins sound: it stands before the first token, and its arena is empty. -/
theorem sound_ofTokens (tokens : List Text) : (ofTokens tokens).Sound tokens where
  ahead := rfl
  forest := .nil 0

/-- What only adds keeps a parser sound. The new blocks are a forest behind one, and both
are one forest together. -/
theorem Sound.grow {tokens : List Text} {before after : Parser} (sound : before.Sound tokens)
    (grows : before.Grows after) : after.Sound tokens := by
  obtain ⟨added, blocks, forest⟩ := grows.program.blocks
  refine ⟨grows.cursor.rest_eq sound.ahead, ?_⟩
  rw [blocks]
  apply sound.forest.append
  rw [Nat.zero_add]
  exact forest

/-- A parser is sound after any calls. The induction is on their list. -/
theorem sound_performAll (tokens : List Text) (calls : List Call) :
    ((ofTokens tokens).performAll calls).Sound tokens :=
  List.foldlRecOn calls Call.perform (sound_ofTokens tokens)
    fun parser sound call _ => sound.grow (parser.grows_perform call)

end Parser

/-- Whatever calls were made on a parser, the next one ends, and it does not go back, opens
or closes no brace, keeps all blocks and warnings, and adds blocks whose links lead forward
among themselves. In the whole arena a block is led to by one link at most. Scripts are
only added, and by nothing but the reading of a whole source. -/
theorem performAll_grows (tokens : List Text) (calls : List Parser.Call) (call : Parser.Call) :
    let before := (Parser.ofTokens tokens).performAll calls
    let after := call.perform before
    before.cursor.position ≤ after.cursor.position ∧
      after.cursor.rest = tokens.drop after.cursor.position ∧
      after.braceDepth = before.braceDepth ∧
      (∃ added, after.program.blocks = before.program.blocks ++ added ∧
        Forest before.program.blocks.length added) ∧
      Forest 0 after.program.blocks ∧
      before.warnings <+: after.warnings ∧
      before.program.scripts <+: after.program.scripts ∧
      (call ≠ .parse → after.program.scripts = before.program.scripts) := by
  intro before after
  have grows : before.Grows after := before.grows_perform call
  have sound : after.Sound tokens := (Parser.sound_performAll tokens calls).grow grows
  refine ⟨grows.cursor.position_le, sound.ahead, grows.depth, grows.program.blocks, sound.forest,
    grows.warnings, grows.program.scripts, ?_⟩
  intro partly
  exact before.scripts_perform partly

end SpriteScript
