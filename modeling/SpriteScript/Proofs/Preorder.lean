import SpriteScript.Parser
import SpriteScript.Proofs.Reading

/-!
# Parsed arenas are forests in preorder

Links are followed on the arena itself: from a block to its body and from there
to the block after it. A parsed arena is visited that way in the order of its
places, each place once. The visit is a relation that mentions neither the
grammar nor the trees it builds, and it has at most one result.

Every item that is read extends the arena at its end. Earlier links therefore
keep their meaning, and the order of places is kept one item at a time.
-/

namespace SpriteScript

namespace Chain

/-- Every block of a chain, at any depth, satisfies `holds`, which is told the
keyword, the arguments and the body of the block. -/
def Each (holds : Keyword → List Argument → Chain → Prop) : Chain → Prop
  | .done => True
  | .block keyword args body next =>
    holds keyword args body ∧ body.Each holds ∧ next.Each holds

/-- The blocks laid out are those of the chain: each has the family, the name
and the arguments of one of them, and a body link exactly where that one has a
body. -/
theorem Each.of_mem_layout {holds : Keyword → List Argument → Chain → Prop} {chain : Chain}
    (each : chain.Each holds) (index : Nat) {block : Block}
    (member : block ∈ chain.layout index) :
    ∃ keyword body place, holds keyword block.args body ∧ block.kind = keyword.kind ∧
      block.name = .text keyword.word ∧ block.body = body.link place := by
  induction chain generalizing index with
  | done => simp [layout] at member
  | block keyword args body next bodyHypothesis nextHypothesis =>
    obtain ⟨here, inBody, inNext⟩ := each
    simp only [layout, List.mem_cons, List.mem_append] at member
    rcases member with rfl | member | member
    · exact ⟨keyword, body, index + 1, here, rfl, rfl, rfl⟩
    · exact bodyHypothesis inBody (index + 1) member
    · exact nextHypothesis inNext (index + 1 + body.size) member

end Chain

/-- What holds of the blocks inside a script: none is an event, and only a scope has a
body. -/
def InnerBlock (keyword : Keyword) (_ : List Argument) (body : Chain) : Prop :=
  keyword ≠ .whenEvent ∧ (keyword.isScope = false → body = .done)

/-- A script begins with an event, and no other event follows. -/
def Chain.IsScript : Chain → Prop
  | .done => False
  | .block keyword _ body next =>
    keyword = .whenEvent ∧ body.Each InnerBlock ∧ next.Each InnerBlock

/-- Visiting a link lists the places of the blocks behind it: first the block
that it leads to, then those reached by its body link, then those reached by its
next link. -/
inductive Visits (blocks : List Block) : Datum → List Nat → Prop where
  | nowhere : Visits blocks .null []
  | arrived (index : Nat) (block : Block) (inside after : List Nat)
      (found : blocks[index]? = some block)
      (body : Visits blocks block.body inside)
      (next : Visits blocks block.next after) :
      Visits blocks (.int index) (index :: (inside ++ after))

/-- Visiting several links one after the other. What one visit lists comes before what the
next one lists. -/
inductive VisitsAll (blocks : List Block) : List Datum → List Nat → Prop where
  | none : VisitsAll blocks [] []
  | more (link : Datum) (links : List Datum) (first later : List Nat)
      (visit : Visits blocks link first) (rest : VisitsAll blocks links later) :
      VisitsAll blocks (link :: links) (first ++ later)

/-- A link is visited in one way only. The blocks decide at each link where the visit goes
on. -/
theorem Visits.unique {blocks : List Block} {link : Datum} {places others : List Nat}
    (visit : Visits blocks link places) (other : Visits blocks link others) :
    places = others := by
  induction visit generalizing others with
  | nowhere =>
    cases other
    rfl
  | arrived index block inside after found body next bodyHypothesis nextHypothesis =>
    cases other with
    | arrived _ otherBlock otherInside otherAfter otherFound otherBody otherNext =>
      have same : block = otherBlock := Option.some.inj (found.symm.trans otherFound)
      subst same
      rw [bodyHypothesis otherBody, nextHypothesis otherNext]

/-- Blocks added at the end of the arena do not change a visit. A link that is visited
leads nowhere or to a block that was there before. -/
theorem Visits.append {blocks : List Block} {link : Datum} {places : List Nat}
    (visit : Visits blocks link places) (added : List Block) :
    Visits (blocks ++ added) link places := by
  induction visit with
  | nowhere => exact .nowhere
  | arrived index block inside after found _ _ bodyHypothesis nextHypothesis =>
    obtain ⟨bounded, _⟩ := List.getElem?_eq_some_iff.mp found
    have kept : (blocks ++ added)[index]? = some block := by
      rw [List.getElem?_append_left bounded]
      exact found
    exact .arrived index block inside after kept bodyHypothesis nextHypothesis

/-- Links are visited in one order only, because blocks are. -/
theorem VisitsAll.unique {blocks : List Block} {links : List Datum} {places others : List Nat}
    (visit : VisitsAll blocks links places) (other : VisitsAll blocks links others) :
    places = others := by
  induction visit generalizing others with
  | none =>
    cases other
    rfl
  | more link links first later visit _ inductionHypothesis =>
    cases other with
    | more _ _ otherFirst otherLater otherVisit otherRest =>
      rw [visit.unique otherVisit, inductionHypothesis otherRest]

/-- Blocks that are added at the end do not change how links are visited that were complete
before. -/
theorem VisitsAll.append {blocks : List Block} {links : List Datum} {places : List Nat}
    (visit : VisitsAll blocks links places) (added : List Block) :
    VisitsAll (blocks ++ added) links places := by
  induction visit with
  | none => exact .none
  | more link links first later visit _ inductionHypothesis =>
    exact .more link links first later (visit.append added) inductionHypothesis

/-- One more link is visited after the others. -/
theorem VisitsAll.concat {blocks : List Block} {links : List Datum} {places last : List Nat}
    {link : Datum} (visit : VisitsAll blocks links places) (final : Visits blocks link last) :
    VisitsAll blocks (links ++ [link]) (places ++ last) := by
  induction visit with
  | none => simpa using VisitsAll.more link [] last [] final .none
  | more first rest here later visit _ inductionHypothesis =>
    rw [List.append_assoc]
    exact .more first (rest ++ [link]) here (later ++ last) visit inductionHypothesis

/-- A chain that stands in an arena from `index` on: its first block, then its
body, then what follows. -/
def Chain.StandsAt (blocks : List Block) (index : Nat) : Chain → Prop
  | .done => True
  | .block keyword args body next =>
    blocks[index]? = some
        { kind := keyword.kind
          name := .text keyword.word
          args := args
          body := body.link (index + 1)
          next := next.link (index + 1 + body.size) } ∧
      body.StandsAt blocks (index + 1) ∧ next.StandsAt blocks (index + 1 + body.size)

/-- A chain that was laid out stands where it was laid out, whatever is before and
after it in the arena. The body begins right after its block and takes as many
places as it has blocks. -/
theorem standsAt_layout (chain : Chain) (before after : List Block) :
    chain.StandsAt (before ++ chain.layout before.length ++ after) before.length := by
  induction chain generalizing before after with
  | done => trivial
  | block keyword args body next bodyHypothesis nextHypothesis =>
    let first : Block :=
      { kind := keyword.kind
        name := .text keyword.word
        args := args
        body := body.link (before.length + 1)
        next := next.link (before.length + 1 + body.size) }
    have inside := bodyHypothesis (before ++ [first])
      (next.layout (before.length + 1 + body.size) ++ after)
    have behind := nextHypothesis (before ++ [first] ++ body.layout (before.length + 1)) after
    simp only [List.length_append, List.length_cons, List.length_nil, Nat.zero_add,
      Chain.length_layout] at inside behind
    have arena : before ++ Chain.layout before.length (.block keyword args body next) ++ after =
        before ++ first :: (body.layout (before.length + 1) ++
          (next.layout (before.length + 1 + body.size) ++ after)) := by
      simp [Chain.layout, first]
    rw [arena]
    refine ⟨by simp [first], ?_, ?_⟩
    · simpa [first] using inside
    · simpa [first] using behind

/-- A chain that stands in the arena is visited in the order of its places. The
visits of a block, of its body and of what follows cover neighbouring intervals. -/
theorem Chain.StandsAt.visits {blocks : List Block} {chain : Chain} {index : Nat}
    (stands : chain.StandsAt blocks index) :
    Visits blocks (chain.link index) (List.range' index chain.size) := by
  induction chain generalizing index with
  | done => exact .nowhere
  | block keyword args body next bodyHypothesis nextHypothesis =>
    obtain ⟨found, inBody, inNext⟩ := stands
    have places : List.range' index (Chain.block keyword args body next).size =
        index :: (List.range' (index + 1) body.size ++
          List.range' (index + 1 + body.size) next.size) := by
      rw [List.range'_append_1, Chain.size, Nat.add_assoc 1, Nat.add_comm 1, List.range'_succ]
    rw [places]
    exact .arrived index _ _ _ found (bodyHypothesis inBody) (nextHypothesis inNext)

namespace Grammar

/-- What every block that is no event satisfies when it is read, every chain
inside a script satisfies throughout. The two readings call each other, so both
are shown at once, along the tokens that they take. -/
theorem each_of_block {holds : Keyword → List Argument → Chain → Prop}
    (step : ∀ depth keyword cursor, keyword ≠ .whenEvent →
      holds keyword (block depth keyword cursor).value.1 (block depth keyword cursor).value.2) :
    (∀ depth event cursor, event = false → (chain depth event cursor).value.Each holds) ∧
      ∀ depth keyword cursor, (block depth keyword cursor).value.2.Each holds := by
  refine chain.mutual_induct
    (fun depth event cursor => event = false → (chain depth event cursor).value.Each holds)
    (fun depth keyword cursor => (block depth keyword cursor).value.2.Each holds)
    ?_ ?_ ?_ ?_ ?_ ?_
  · intro depth event cursor absent _
    rw [chain_without_keyword depth event absent]
    trivial
  · rintro depth event cursor keyword standing ⟨rfl, rfl⟩ _
    rw [chain_before_event depth standing]
    trivial
  · intro depth event cursor keyword standing allowed _ inBlock inRest inner
    rw [chain_with_block depth event standing allowed]
    have notEvent : keyword ≠ .whenEvent := fun same => allowed ⟨same, inner⟩
    exact ⟨step depth keyword cursor.advance notEvent, inBlock, inRest rfl⟩
  · intro depth keyword cursor _ scope opened inBody
    rw [block_braced depth cursor scope opened]
    simpa only [Reading.andThen, Reading.since, closing_value] using inBody rfl
  · intro depth keyword cursor _ scope unopened inBody
    rw [block_unbraced depth cursor scope unopened]
    exact inBody rfl
  · intro depth keyword cursor plain
    rw [block_plain depth cursor (by simpa using plain)]
    trivial

/-- Only a scope is read with a body. The body of any other block is empty, whatever
follows it. -/
theorem block_value_body (depth : Nat) (keyword : Keyword) (cursor : Cursor Text)
    (plain : keyword.isScope = false) : (block depth keyword cursor).value.2 = .done := by
  rw [block_plain depth cursor plain]
  rfl

/-- A chain that begins at a `when` is a script. In the rest of it, as in all bodies, no
event is allowed. -/
theorem chain_isScript (depth : Nat) {cursor : Cursor Text}
    (standing : keyword? cursor = some .whenEvent) : (chain depth true cursor).value.IsScript := by
  have inner := @each_of_block InnerBlock fun depth keyword cursor notEvent =>
    ⟨notEvent, block_value_body depth keyword cursor⟩
  rw [chain_with_block depth true standing (by simp)]
  exact ⟨rfl, inner.2 depth .whenEvent cursor.advance, inner.1 depth false _ rfl⟩

/-- The cursor stands on the keyword of a script when it stands on its word. -/
theorem keyword?_of_when {cursor : Cursor Text} (standing : cursor.current? = some ("when" : Text)) :
    keyword? cursor = some .whenEvent := by
  simp only [keyword?, standing, Option.bind_some]
  rfl

/-- What holds of the item at every token holds of all items of a source. -/
theorem items_all {holds : Item → Prop}
    (step : ∀ depth token cursor, cursor.current? = some token →
      ∀ found ∈ (item depth token cursor).value, holds found)
    (depth : Nat) (cursor : Cursor Text) : ∀ found ∈ (items depth cursor).value, holds found := by
  induction cursor using items.induct depth with
  | case1 cursor ended =>
    rw [items_ended depth ended]
    simp [Reading.stay]
  | case2 cursor token standing first inductionHypothesis =>
    rw [items_with_item depth standing]
    intro listed member
    simp only [Reading.andThen, List.mem_append, Option.mem_toList] at member
    rcases member with here | later
    · exact step depth token cursor standing listed here
    · exact inductionHypothesis listed later

/-- Everything that an item can be: the script read at a `when`, or the
declaration read after a name. A token that begins no item gives none. -/
theorem item_cases (depth : Nat) {token : Text} {cursor : Cursor Text}
    (standing : cursor.current? = some token) {found : Item}
    (member : found ∈ (item depth token cursor).value) :
    (keyword? cursor = some .whenEvent ∧ found = .script (chain depth true cursor).value) ∨
      (∃ name place, found = .declareVariable name (variableValue name place).value) ∨
      ∃ name place, found = .declareList name (listValues name place).value := by
  unfold item at member
  split at member
  · rename_i isWhen
    rw [beq_iff_eq.mp isWhen] at standing
    exact .inl ⟨keyword?_of_when standing, (Option.some.inj member).symm⟩
  · split at member
    · unfold variableDeclaration at member
      split at member
      · cases member
      · rename_i name _
        exact .inr (.inl ⟨name, cursor.advance.advance, (Option.some.inj member).symm⟩)
    · split at member
      · unfold listDeclaration at member
        split at member
        · cases member
        · rename_i name _
          exact .inr (.inr ⟨name, cursor.advance.advance, (Option.some.inj member).symm⟩)
      · cases member

/-- Scripts among the items begin with an event and hold no other. Declarations are always
proper. -/
def Item.Proper : Item → Prop
  | .script chain => chain.IsScript
  | _ => True

/-- All items are proper wherever the reading starts, since each of them is read on its
own. -/
theorem items_proper (depth : Nat) (cursor : Cursor Text) :
    ∀ found ∈ (items depth cursor).value, found.Proper := by
  apply items_all
  intro depth token cursor standing found member
  rcases item_cases depth standing member with ⟨event, rfl⟩ | ⟨_, _, rfl⟩ | ⟨_, _, rfl⟩
  · exact chain_isScript depth event
  · trivial
  · trivial

end Grammar

/-- What is true of a single parsed block: its family belongs to its name, and it has a
body only if its name opens a scope. -/
def Block.Parsed (block : Block) (keyword : Keyword) : Prop :=
  block.name = .text keyword.word ∧ block.kind = keyword.kind ∧
    (block.body ≠ .null → keyword.isScope = true)

/-- A script is laid out as its event, to which its link leads, and then blocks
that are no events. -/
theorem Chain.IsScript.layout_eq {chain : Chain} (script : chain.IsScript) (index : Nat) :
    chain.link index = .int index ∧ ∃ root inner, chain.layout index = root :: inner ∧
      root.Parsed .whenEvent ∧
      ∀ block ∈ inner, ∃ keyword, keyword ≠ .whenEvent ∧ block.Parsed keyword := by
  cases chain with
  | done => exact script.elim
  | block keyword args body next =>
    obtain ⟨rfl, inBody, inNext⟩ := script
    refine ⟨rfl, _, _, rfl, ⟨rfl, rfl, fun _ => rfl⟩, ?_⟩
    have inner : ∀ (part : Chain) (place : Nat), part.Each InnerBlock →
        ∀ block ∈ part.layout place, ∃ keyword, keyword ≠ .whenEvent ∧ block.Parsed keyword := by
      intro part place each block member
      obtain ⟨keyword, content, start, ⟨notEvent, bodiless⟩, kind, name, link⟩ :=
        each.of_mem_layout place member
      refine ⟨keyword, notEvent, name, kind, ?_⟩
      intro linked
      by_cases scope : keyword.isScope = true
      · exact scope
      · rw [link, bodiless (by simpa using scope)] at linked
        exact absurd rfl linked
    intro block member
    rcases List.mem_append.mp member with inside | after
    · exact inner body (index + 1) inBody block inside
    · exact inner next (index + 1 + body.size) inNext block after

/-- A program whose arena is a forest in preorder, with events as its roots and
nowhere else, families that belong to the names, and bodies only in scopes. -/
structure Program.Preordered (program : Program) : Prop where
  visited : VisitsAll program.blocks program.scripts (List.range program.blocks.length)
  rooted : ∀ root ∈ program.scripts, ∃ index block, root = .int (index : Nat) ∧
    program.blocks[index]? = some block ∧ block.name = .text "when"
  events : ∀ index block, program.blocks[index]? = some block → block.name = .text "when" →
    .int (index : Nat) ∈ program.scripts
  families : ∀ block ∈ program.blocks, ∃ name keyword, block.name = .text name ∧
    Keyword.ofToken? name = some keyword ∧ block.kind = keyword.kind
  bodies : ∀ block ∈ program.blocks, block.body ≠ .null →
    block.name = .text "when" ∨ block.name = .text "repeat" ∨ block.name = .text "if"

namespace Program

/-- A parsed block has the family of its name. -/
theorem family_of_parsed {block : Block} {keyword : Keyword} (parsed : block.Parsed keyword) :
    ∃ name keyword, block.name = .text name ∧ Keyword.ofToken? name = some keyword ∧
      block.kind = keyword.kind :=
  ⟨keyword.word, keyword, parsed.1, keyword.ofToken?_word, parsed.2.1⟩

/-- A parsed block with a body is named by a word that opens a scope. -/
theorem scope_of_parsed {block : Block} {keyword : Keyword} (parsed : block.Parsed keyword)
    (linked : block.body ≠ .null) :
    block.name = .text "when" ∨ block.name = .text "repeat" ∨ block.name = .text "if" := by
  rw [parsed.1]
  rcases Keyword.word_of_isScope (parsed.2.2 linked) with same | same | same
  · exact .inl (congrArg _ same)
  · exact .inr (.inl (congrArg _ same))
  · exact .inr (.inr (congrArg _ same))

/-- A program without blocks is in order. Its visit lists nothing. -/
theorem preordered_empty : ({} : Program).Preordered where
  visited := .none
  rooted := by simp
  events := by simp
  families := by simp
  bodies := by simp

/-- Adding a script keeps the order: the new blocks take the places after the old
ones, the new root is the only event among them, and no earlier link changes. -/
theorem Preordered.addScript {program : Program} (ordered : program.Preordered) {chain : Chain}
    (script : chain.IsScript) : (program.addItem (.script chain)).Preordered := by
  obtain ⟨linked, root, inner, laid, rootParsed, innerParsed⟩ :=
    script.layout_eq program.blocks.length
  have parsed : ∀ block ∈ chain.layout program.blocks.length, ∃ keyword, block.Parsed keyword := by
    intro block member
    rw [laid] at member
    rcases List.mem_cons.mp member with rfl | later
    · exact ⟨.whenEvent, rootParsed⟩
    · obtain ⟨keyword, _, here⟩ := innerParsed block later
      exact ⟨keyword, here⟩
  refine ⟨?_, ?_, ?_, ?_, ?_⟩
  · have visit := (standsAt_layout chain program.blocks []).visits
    rw [List.append_nil] at visit
    have places : List.range program.blocks.length ++
        List.range' program.blocks.length chain.size =
        List.range (program.blocks ++ chain.layout program.blocks.length).length := by
      have joined := @List.range'_append_1 0 program.blocks.length chain.size
      rw [Nat.zero_add] at joined
      rw [List.length_append, chain.length_layout, List.range_eq_range', List.range_eq_range',
        joined]
    have all := (ordered.visited.append (chain.layout program.blocks.length)).concat visit
    rw [places] at all
    exact all
  · intro root member
    rcases List.mem_append.mp member with earlier | new
    · obtain ⟨index, block, same, found, named⟩ := ordered.rooted root earlier
      obtain ⟨bounded, _⟩ := List.getElem?_eq_some_iff.mp found
      refine ⟨index, block, same, ?_, named⟩
      exact (List.getElem?_append_left bounded).trans found
    · rw [List.mem_singleton.mp new]
      refine ⟨program.blocks.length, _, linked, ?_, rootParsed.1⟩
      simp [Program.addItem, Program.addChain, nextIndex, laid]
  · intro index block found named
    have found : (program.blocks ++ root :: inner)[index]? = some block := laid ▸ found
    by_cases earlier : index < program.blocks.length
    · rw [List.getElem?_append_left earlier] at found
      exact List.mem_append_left _ (ordered.events index block found named)
    · have behind : program.blocks.length ≤ index := Nat.le_of_not_lt earlier
      rw [List.getElem?_append_right behind] at found
      cases offset : index - program.blocks.length with
      | zero =>
        have same : index = program.blocks.length := by omega
        rw [same, ← linked]
        exact List.mem_append_right _ (List.mem_singleton.mpr rfl)
      | succ distance =>
        rw [offset, List.getElem?_cons_succ] at found
        obtain ⟨keyword, notEvent, here, _⟩ := innerParsed block (List.mem_of_getElem? found)
        have word : keyword.word = Keyword.whenEvent.word := Datum.text.inj (here.symm.trans named)
        exact absurd (Keyword.eq_of_word word) notEvent
  · intro block member
    rcases List.mem_append.mp member with earlier | new
    · exact ordered.families block earlier
    · obtain ⟨keyword, here⟩ := parsed block new
      exact family_of_parsed here
  · intro block member
    rcases List.mem_append.mp member with earlier | new
    · exact ordered.bodies block earlier
    · obtain ⟨keyword, here⟩ := parsed block new
      exact scope_of_parsed here

/-- One item keeps the order. Declarations do not touch the arena. -/
theorem Preordered.addItem {program : Program} (ordered : program.Preordered)
    {item : Grammar.Item} (proper : item.Proper) : (program.addItem item).Preordered := by
  cases item with
  | script chain => exact ordered.addScript proper
  | declareVariable name value => exact ⟨ordered.1, ordered.2, ordered.3, ordered.4, ordered.5⟩
  | declareList name values => exact ⟨ordered.1, ordered.2, ordered.3, ordered.4, ordered.5⟩

/-- All items of a source keep the order. The induction is on the items, which are added
one after the other. -/
theorem Preordered.addItems {program : Program} (ordered : program.Preordered)
    {items : List Grammar.Item} (proper : ∀ item ∈ items, item.Proper) :
    (items.foldl Program.addItem program).Preordered :=
  List.foldlRecOn items Program.addItem ordered
    fun _ kept item member => kept.addItem (proper item member)

/-- Parsing begins without blocks and adds the items of the source, so its programs are in
order. -/
theorem preordered_parse (tokens : List Text) : (parse tokens).Preordered :=
  preordered_empty.addItems (Grammar.items_proper 0 { rest := tokens })

end Program

/-- Whatever the tokens are, the program read from them is a forest numbered in
preorder. Visiting its scripts one after the other, each block before its body
and its body before the block after it, lists the places of the arena from the
first to the last, each once, and nothing else. The roots of scripts are events
and there are no other events, every family is the one of the name, and only
scopes have a body. -/
theorem parse_preordered (tokens : List Text) :
    (parse tokens).Preordered ∧
      ∀ places, VisitsAll (parse tokens).blocks (parse tokens).scripts places ↔
        places = List.range (parse tokens).blocks.length := by
  have ordered := Program.preordered_parse tokens
  refine ⟨ordered, fun places => ⟨?_, ?_⟩⟩
  · exact fun visit => visit.unique ordered.visited
  · rintro rfl
    exact ordered.visited

end SpriteScript
