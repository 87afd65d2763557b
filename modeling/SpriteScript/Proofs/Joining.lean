import SpriteScript.Proofs.Interruption
import SpriteScript.Proofs.Rendering

/-!
# Programs side by side

Two programs are joined by putting the blocks of the second behind those of the first.
The links of the second then lead further on, by as many places as the first has; no
link leads from one program into the other. What the first declares is kept and
updated by what the second declares.

A `when` cuts the tokens of a source, so the program before it and the program from it
on are joined. Rendering knows nothing of places, so the scripts of joined programs are
written as those of the two, one after the other.
-/

namespace SpriteScript

/-- The link to a place further on. A link that names no place stays as it is, as it leads
nowhere in either program. -/
def Datum.shift (distance : Nat) (link : Datum) : Datum :=
  match Program.index? link with
  | some index => .int (index + distance : Nat)
  | none => link

/-- A block with links to places further on. -/
def Block.shift (distance : Nat) (block : Block) : Block :=
  { block with body := block.body.shift distance, next := block.next.shift distance }

/-- One program and then another one. Its blocks come behind those of the first, and its
declarations are entered into the tables of the first. -/
def Program.join (first second : Program) : Program where
  blocks := first.blocks ++ second.blocks.map (Block.shift first.blocks.length)
  scripts := first.scripts ++ second.scripts.map (Datum.shift first.blocks.length)
  variableTable := first.variableTable.insertAll second.variableTable.entries
  listTable := first.listTable.insertAll second.listTable.entries

/-- Entries brought up to date: a name that is there keeps its place and takes the newer
value, if there is one, and new names follow in their order. -/
def updated {α : Type} (entries newer : List (Text × α)) : List (Text × α) :=
  entries.map (fun entry => (entry.1, (newer.lookup entry.1).getD entry.2)) ++
    newer.filter fun entry => entry.1 ∉ entries.map Prod.fst

/-- Entering one name and updating by the others is updating by all, if the names are
distinct. The order of the entries comes out the same. -/
theorem updated_upsert {α : Type} {key : Text} (value : α) {entries rest : List (Text × α)}
    (distinct : (entries.map Prod.fst).Nodup) (single : key ∉ rest.map Prod.fst) :
    updated (upsert key value entries) rest = updated entries ((key, value) :: rest) := by
  have unlisted : rest.lookup key = none := by
    rw [List.lookup_eq_none_iff]
    rintro ⟨other, stored⟩ member
    have different : key ≠ other := fun same =>
      single (List.mem_map.mpr ⟨(other, stored), member, same.symm⟩)
    simpa using different
  have others : rest.filter (fun entry => entry.1 ∉ (upsert key value entries).map Prod.fst) =
      rest.filter fun entry => entry.1 ∉ entries.map Prod.fst := by
    apply List.filter_congr
    intro entry member
    have different : entry.1 ≠ key := fun same =>
      single (List.mem_map.mpr ⟨entry, member, same⟩)
    rw [decide_eq_decide, mem_keys_upsert]
    simp [different]
  have elsewhere : ∀ entry : Text × α, entry.1 ≠ key →
      ((key, value) :: rest).lookup entry.1 = rest.lookup entry.1 := by
    intro entry different
    have unequal : (entry.1 == key) = false := by simpa using different
    rw [List.lookup_cons, unequal]
  unfold updated
  rw [others]
  by_cases present : key ∈ entries.map Prod.fst
  · rw [upsert_old value distinct present, List.map_map,
      List.filter_cons_of_neg (by simpa using present)]
    congr 1
    apply List.map_congr_left
    intro entry _
    by_cases same : entry.1 = key
    · simp [same, unlisted]
    · simp [same, elsewhere entry same]
  · rw [upsert_new value present, List.map_append,
      List.filter_cons_of_pos (by simpa using present), List.append_assoc]
    congr 1
    · apply List.map_congr_left
      intro entry member
      have different : entry.1 ≠ key := fun same =>
        present (List.mem_map.mpr ⟨entry, member, same⟩)
      rw [elsewhere entry different]
    · simp [unlisted]

/-- Entering pairs with distinct names brings a table up to date. -/
theorem entries_insertAll {α : Type} (table newer : Table α) :
    (table.insertAll newer.entries).entries = updated table.entries newer.entries := by
  obtain ⟨pairs, distinct⟩ := newer
  show (table.insertAll pairs).entries = updated table.entries pairs
  induction pairs generalizing table with
  | nil => simp [Table.insertAll, updated]
  | cons pair rest inductionHypothesis =>
    obtain ⟨key, value⟩ := pair
    simp only [List.map_cons, List.nodup_cons] at distinct
    rw [← updated_upsert value table.distinct distinct.1]
    exact inductionHypothesis (table.insert key value) distinct.2

/-- A link that names a place names the place further on after a shift. -/
theorem Datum.index?_shift {link : Datum} {place : Nat} (distance : Nat)
    (named : Program.index? link = some place) :
    Program.index? (link.shift distance) = some (place + distance) := by
  rw [Datum.shift, named]
  rfl

/-- The link to a chain that is laid out further on. -/
theorem Chain.link_shift (chain : Chain) (distance index : Nat) :
    chain.link (distance + index) = (chain.link index).shift distance := by
  cases chain with
  | done => rfl
  | block keyword args body next =>
    rw [Nat.add_comm]
    rfl

/-- A chain that is laid out further on has the same blocks, with links further on. The
layout is relative to the place where it begins. -/
theorem Chain.layout_shift (chain : Chain) (distance index : Nat) :
    chain.layout (distance + index) = (chain.layout index).map (Block.shift distance) := by
  induction chain generalizing index with
  | done => rfl
  | block keyword args body next bodyHypothesis nextHypothesis =>
    rw [layout, layout, List.map_cons, List.map_append, ← bodyHypothesis, ← nextHypothesis]
    simp only [Block.shift, ← Chain.link_shift, Nat.add_assoc]

/-- Adding an item to joined programs is adding it to the second of them. -/
theorem Program.join_addItem (first second : Program) (item : Grammar.Item) :
    (first.join second).addItem item = first.join (second.addItem item) := by
  cases item with
  | script chain =>
    have place : (first.join second).nextIndex = first.blocks.length + second.nextIndex := by
      simp [nextIndex, join]
    simp only [addItem, addChain, place, Chain.layout_shift, Chain.link_shift]
    simp [join]
  | declareVariable name value =>
    simp only [addItem, declareVariable, join, Table.insertAll_insert]
  | declareList name values =>
    simp only [addItem, declareList, join, Table.insertAll_insert]

/-- Several items one after the other. -/
theorem Program.join_addItems (first second : Program) (items : List Grammar.Item) :
    items.foldl addItem (first.join second) = first.join (items.foldl addItem second) := by
  induction items generalizing second with
  | nil => rfl
  | cons item rest inductionHypothesis =>
    rw [List.foldl_cons, List.foldl_cons, join_addItem, inductionHypothesis]

/-- Nothing is added by joining the empty program. This is where the induction on the items
of the second program begins. -/
theorem Program.join_empty (program : Program) : program.join {} = program := by
  simp [join, Table.empty, Table.insertAll]

/-- The tokens before a `when` and those from it on are parsed each on its own, and the
programs are joined. -/
theorem parse_cut {first second : List Text}
    (complete : Grammar.Complete (Parser.ofTokens first).parse.warnings) :
    parse (first ++ ("when" : Text) :: second) =
        (parse first).join (parse (("when" : Text) :: second)) ∧
      (Parser.ofTokens (first ++ ("when" : Text) :: second)).parse.warnings =
        (Parser.ofTokens first).parse.warnings ++
          (Parser.ofTokens (("when" : Text) :: second)).parse.warnings := by
  obtain ⟨values, warnings⟩ := @Grammar.items_cut 0 first second complete
  constructor
  · show (Grammar.items 0 { rest := first ++ ("when" : Text) :: second }).value.foldl
      Program.addItem {} = _
    rw [values, List.foldl_append]
    -- The later items are added to the first program as it is joined with nothing yet.
    show _ = (parse first).join _
    rw [← Program.join_empty (List.foldl Program.addItem {} _), Program.join_addItems]
    rfl
  · exact warnings

/-- The tree of a link that leads further on. Only its places are changed, and the links
stored in its blocks. -/
def Tree.shift (distance : Nat) : Tree → Tree
  | .nothing => .nothing
  | .block place stored body next =>
    .block (place + distance) (stored.shift distance) (body.shift distance) (next.shift distance)

/-- Links of the first program unfold as before, because blocks are added behind its own.
-/
theorem Unfolds.join_left {first : Program} {link : Datum} {tree : Tree} (second : Program)
    (unfolds : Unfolds first link tree) : Unfolds (first.join second) link tree := by
  have kept : ∀ {place : Nat} {stored : Block}, first.blocks[place]? = some stored →
      (first.join second).blocks[place]? = some stored := by
    intro place stored found
    obtain ⟨bounded, _⟩ := List.getElem?_eq_some_iff.mp found
    exact (List.getElem?_append_left bounded).trans found
  induction unfolds with
  | nowhere => exact .nowhere
  | entered link place stored body next named found enters _ _ bodyHypothesis nextHypothesis =>
    exact .entered link place stored body next named (kept found) enters bodyHypothesis
      nextHypothesis
  | passed link place stored next named found leaves _ nextHypothesis =>
    exact .passed link place stored next named (kept found) leaves nextHypothesis

/-- Links of the second program unfold to the same tree further on: its blocks and its
links are shifted alike. -/
theorem Unfolds.join_right {second : Program} {link : Datum} {tree : Tree} (first : Program)
    (unfolds : Unfolds second link tree) :
    Unfolds (first.join second) (link.shift first.blocks.length)
      (tree.shift first.blocks.length) := by
  have moved : ∀ {place : Nat} {stored : Block}, second.blocks[place]? = some stored →
      (first.join second).blocks[place + first.blocks.length]? =
        some (stored.shift first.blocks.length) := by
    intro place stored found
    rw [Program.join, List.getElem?_append_right (Nat.le_add_left _ _), Nat.add_sub_cancel,
      List.getElem?_map, found]
    rfl
  induction unfolds with
  | nowhere => exact .nowhere
  | entered link place stored body next named found enters _ _ bodyHypothesis nextHypothesis =>
    exact .entered _ _ _ _ _ (Datum.index?_shift _ named) (moved found) enters bodyHypothesis
      nextHypothesis
  | passed link place stored next named found leaves _ nextHypothesis =>
    exact .passed _ _ _ _ (Datum.index?_shift _ named) (moved found) leaves nextHypothesis

/-- The scripts of joined programs unfold to the trees of the two. -/
theorem unfold_join {first second : Program} {trees others : List Tree}
    (unfold : List.Forall₂ (Unfolds first) first.scripts trees)
    (unfoldOthers : List.Forall₂ (Unfolds second) second.scripts others) :
    List.Forall₂ (Unfolds (first.join second)) (first.join second).scripts
      (trees ++ others.map (Tree.shift first.blocks.length)) := by
  have left := unfold.imp fun _ _ unfolds => unfolds.join_left second
  have right : List.Forall₂ (Unfolds (first.join second))
      (second.scripts.map (Datum.shift first.blocks.length))
      (others.map (Tree.shift first.blocks.length)) := by
    rw [List.forall₂_map_left_iff, List.forall₂_map_right_iff]
    exact unfoldOthers.imp fun _ _ unfolds => unfolds.join_right first
  exact List.rel_append left right

namespace JavaScript

/-- A block is rendered without regard to its links, and a tree without regard to its
places. -/
theorem renderTree_shift (distance indent loops : Nat) (tree : Tree) :
    renderTree indent loops (tree.shift distance) = renderTree indent loops tree := by
  induction tree generalizing indent loops with
  | nothing => rfl
  | block place stored body next bodyHypothesis nextHypothesis =>
    have links : ∀ inside, renderBlock indent loops (stored.shift distance) inside =
        renderBlock indent loops stored inside := fun _ => rfl
    simp only [Tree.shift, renderTree, links, bodyHypothesis, nextHypothesis]

/-- A forest is rendered alike wherever its blocks are stored, since places are not
written. -/
theorem renderForest_shift (distance : Nat) (trees : List Tree) :
    renderForest (trees.map (Tree.shift distance)) = renderForest trees := by
  induction trees with
  | nil => rfl
  | cons tree rest inductionHypothesis =>
    rw [List.map_cons, renderForest, renderForest, renderTree_shift, inductionHypothesis]

/-- Forests side by side are rendered one after the other. -/
theorem renderForest_append {trees others : List Tree} {output later : Output}
    (rendered : renderForest trees = .ok output) (othersRendered : renderForest others = .ok later) :
    renderForest (trees ++ others) = .ok (output ++ later) := by
  induction trees generalizing output with
  | nil =>
    cases rendered
    exact othersRendered
  | cons tree rest inductionHypothesis =>
    obtain ⟨here, first, rendered⟩ := exists_ok_of_bind rendered
    obtain ⟨after, more, rendered⟩ := exists_ok_of_bind rendered
    cases rendered
    rw [List.cons_append, renderForest, first, inductionHypothesis more]
    show Except.ok (here ++ (after ++ later)) = .ok (here ++ after ++ later)
    rw [Output.append_assoc]

/-- The text of the scripts of a program: what its code holds after the declarations. The
declarations are the only part that the scripts share. -/
def ScriptsSection (program : Program) (scripts : Text) : Prop :=
  ∃ header, declarations program = .ok header ∧
    (generate program).code = .ok (preamble ++ (header ++ scripts))

/-- If a program can be written, its scripts are written as the forest behind them. -/
theorem scriptsSection_of_sound {program : Program} (sound : (generate program).failure = none) :
    ∃ trees output, List.Forall₂ (Unfolds program) program.scripts trees ∧
      renderForest trees = .ok output ∧ ScriptsSection program output.lines.flatten ∧
      (generate program).warnings = output.warnings := by
  obtain ⟨header, trees, output, declared, unfold, rendered, _, text, warnings⟩ :=
    generate_of_sound sound
  refine ⟨trees, output, unfold, rendered, ⟨header, declared, ?_⟩, warnings⟩
  rw [code_of_sound sound, text]

/-- If two programs and both of them joined can be written, the scripts of the joined
programs are written as those of the first and then those of the second. -/
theorem generate_join {first second : Program} (sound : (generate first).failure = none)
    (secondSound : (generate second).failure = none)
    (joinedSound : (generate (first.join second)).failure = none) :
    ∃ earlier later, ScriptsSection first earlier ∧ ScriptsSection second later ∧
      ScriptsSection (first.join second) (earlier ++ later) ∧
      (generate (first.join second)).warnings =
        (generate first).warnings ++ (generate second).warnings := by
  obtain ⟨trees, output, unfold, rendered, ownSection, warnings⟩ := scriptsSection_of_sound sound
  obtain ⟨others, later, unfoldOthers, renderedOthers, sectionOthers, warningsOthers⟩ :=
    scriptsSection_of_sound secondSound
  obtain ⟨all, whole, unfoldAll, renderedAll, sectionAll, warningsAll⟩ :=
    scriptsSection_of_sound joinedSound
  -- The joined scripts unfold to one forest only, and that of the two is one.
  have same : all = trees ++ others.map (Tree.shift first.blocks.length) :=
    Relator.RightUnique.forall₂ (fun _ _ _ one other => one.unique other) unfoldAll
      (unfold_join unfold unfoldOthers)
  have renderedJoin : renderForest all = .ok (output ++ later) := by
    rw [same]
    exact renderForest_append rendered ((renderForest_shift _ _).trans renderedOthers)
  cases Except.ok.inj (renderedAll.symm.trans renderedJoin)
  refine ⟨output.lines.flatten, later.lines.flatten, ownSection, sectionOthers, ?_, ?_⟩
  · simpa using sectionAll
  · rw [warningsAll, warnings, warningsOthers]
    rfl

end JavaScript

/-- A parsed program is written without an error, so its scripts have a rendering. -/
theorem generate_parse_sound (tokens : List Text) :
    (JavaScript.generate (parse tokens)).failure = none := by
  obtain ⟨code, written⟩ := generate_parse tokens
  exact JavaScript.sound_of_code written

/-- A `when` always cuts. If the tokens before it leave no expression and no declaration
open, they and those from the `when` on are parsed as if the others were not there. The
programs are joined: places are shifted, and what was declared is brought up to date.
The warnings come one after the other, and so do the scripts in the code and the
warnings about them. -/
theorem parse_append_when {first second : List Text}
    (nonempty : ∀ token ∈ first ++ second, token ≠ []) :
    ∃ before after whole, Parser.create first = .ok before ∧
      Parser.create (("when" : Text) :: second) = .ok after ∧
      Parser.create (first ++ ("when" : Text) :: second) = .ok whole ∧
      (Grammar.Complete before.parse.warnings →
        whole.parse.program = before.parse.program.join after.parse.program ∧
        whole.parse.program.variableTable.entries =
          updated before.parse.program.variableTable.entries
            after.parse.program.variableTable.entries ∧
        whole.parse.program.listTable.entries =
          updated before.parse.program.listTable.entries
            after.parse.program.listTable.entries ∧
        whole.parse.warnings = before.parse.warnings ++ after.parse.warnings ∧
        ∃ earlier later, JavaScript.ScriptsSection before.parse.program earlier ∧
          JavaScript.ScriptsSection after.parse.program later ∧
          JavaScript.ScriptsSection whole.parse.program (earlier ++ later) ∧
          (JavaScript.generate whole.parse.program).warnings =
            (JavaScript.generate before.parse.program).warnings ++
              (JavaScript.generate after.parse.program).warnings) := by
  have event : ("when" : Text) ≠ [] := by decide
  have own : ∀ token ∈ first, token ≠ [] := fun token member =>
    nonempty token (List.mem_append_left second member)
  have others : ∀ token ∈ ("when" : Text) :: second, token ≠ [] := by
    intro token member
    rcases List.mem_cons.mp member with rfl | later
    · exact event
    · exact nonempty token (List.mem_append_right first later)
  have all : ∀ token ∈ first ++ ("when" : Text) :: second, token ≠ [] := by
    intro token member
    exact (List.mem_append.mp member).elim (own token) (others token)
  refine ⟨.ofTokens first, .ofTokens (("when" : Text) :: second),
    .ofTokens (first ++ ("when" : Text) :: second), Parser.create_of_ne_nil own,
    Parser.create_of_ne_nil others, Parser.create_of_ne_nil all, ?_⟩
  intro complete
  obtain ⟨program, warnings⟩ := @parse_cut first second complete
  have joined : (Parser.ofTokens (first ++ ("when" : Text) :: second)).parse.program =
    (parse first).join (parse (("when" : Text) :: second)) := program
  have sections := JavaScript.generate_join (generate_parse_sound first)
    (generate_parse_sound (("when" : Text) :: second)) (program ▸ generate_parse_sound _)
  rw [joined]
  exact ⟨rfl, entries_insertAll _ _, entries_insertAll _ _, warnings, sections⟩

/-- A stray token and a script in which two bodies are left open. None of this is an
expression or a declaration. -/
def damaged : List Text := ["stray", "when", "a", "\x7b", "if", "b", "\x7b"]

/-- A place in `damaged`. -/
def damagedAt (place : Nat) : Cursor Text := ⟨damaged.drop place, place⟩

namespace Grammar

/-- The stray token and the two bodies are reported. Each reading is opened one step at
a time, from the innermost one on. -/
theorem damaged_warnings :
    (Parser.ofTokens damaged).parse.warnings =
      [⟨.skippedToken, Text.quoted "stray"⟩, unclosedWarning (.text "if"),
        unclosedWarning (.text "when")] := by
  have innerArgs : arguments 1 Keyword.ifTrue.isScope (damagedAt 4).advance =
      ⟨[Literal.argument "b"], damagedAt 6, [], by decide⟩ := by
    rw [arguments_literal 1 _ rfl rfl (by decide), arguments_ended 1 _ (by rintro _ ⟨⟩; rfl)]
    rfl
  have inner : block 1 .ifTrue (damagedAt 4).advance =
      ⟨([Literal.argument "b"], .done), damagedAt 7, [unclosedWarning (.text "if")], by decide⟩ := by
    rw [block_braced 1 _ rfl (by rw [innerArgs]; rfl), innerArgs, chain_without_keyword _ false]
    · rfl
    · rfl
  have body : chain 1 false (damagedAt 3).advance =
      ⟨.block .ifTrue [Literal.argument "b"] .done .done, damagedAt 7,
        [unclosedWarning (.text "if")], by decide⟩ := by
    show chain 1 false (damagedAt 4) = _
    rw [@chain_with_block _ .ifTrue 1 false rfl (by decide), inner, chain_without_keyword _ false]
    · rfl
    · rfl
  have args : arguments 0 Keyword.whenEvent.isScope (damagedAt 1).advance =
      ⟨[Literal.argument "a"], damagedAt 3, [], by decide⟩ := by
    rw [arguments_literal 0 _ rfl rfl (by decide), arguments_ended 0 _ (by rintro _ ⟨⟩; rfl)]
    rfl
  have event : block 0 .whenEvent (damagedAt 1).advance =
      ⟨([Literal.argument "a"], .block .ifTrue [Literal.argument "b"] .done .done), damagedAt 7,
        [unclosedWarning (.text "if"), unclosedWarning (.text "when")], by decide⟩ := by
    rw [block_braced 0 _ rfl (by rw [args]; rfl), args]
    dsimp only
    rw [body]
    rfl
  have script : chain 0 true (damagedAt 0).advance =
      ⟨.block .whenEvent [Literal.argument "a"]
        (.block .ifTrue [Literal.argument "b"] .done .done) .done, damagedAt 7,
        [unclosedWarning (.text "if"), unclosedWarning (.text "when")], by decide⟩ := by
    show chain 0 true (damagedAt 1) = _
    rw [@chain_with_block _ .whenEvent 0 true rfl (by decide), event, chain_without_keyword _ false]
    · rfl
    · rfl
  show (items 0 (damagedAt 0)).warnings = _
  rw [@items_with_item _ 0 "stray" rfl]
  show [_] ++ (items 0 (damagedAt 0).advance).warnings = _
  rw [@items_with_item _ 0 "when" rfl, item_when, script]
  show [_] ++ ([_, _] ++ (items 0 (damagedAt 7)).warnings) = _
  rw [items_ended 0 rfl]
  rfl

end Grammar

/-- The bodies that `damaged` leaves open are reported and do not reach into the script
that follows. -/
theorem parse_append_when_damaged :
    (∀ token ∈ damaged ++ (["c"] : List Text), token ≠ []) ∧
      ∃ before after whole, Parser.create damaged = .ok before ∧
        Parser.create ["when", "c"] = .ok after ∧
        Parser.create (damaged ++ (["when", "c"] : List Text)) = .ok whole ∧
        Grammar.Complete before.parse.warnings ∧
        whole.parse.program = before.parse.program.join after.parse.program ∧
        whole.parse.warnings = before.parse.warnings ++ after.parse.warnings ∧
        ∃ earlier later, JavaScript.ScriptsSection before.parse.program earlier ∧
          JavaScript.ScriptsSection after.parse.program later ∧
          JavaScript.ScriptsSection whole.parse.program (earlier ++ later) := by
  have nonempty : ∀ token ∈ damaged ++ (["c"] : List Text), token ≠ [] := by decide
  obtain ⟨before, after, whole, created, createdAfter, createdWhole, cut⟩ :=
    parse_append_when nonempty
  have complete : Grammar.Complete before.parse.warnings := by
    have own : Parser.create damaged = .ok (.ofTokens damaged) :=
      Parser.create_of_ne_nil fun token member =>
        nonempty token (List.mem_append_left _ member)
    rw [← Except.ok.inj (own.symm.trans created), Grammar.damaged_warnings]
    decide
  obtain ⟨program, _, _, warnings, earlier, later, first, second, both, _⟩ := cut complete
  exact ⟨nonempty, before, after, whole, created, createdAfter, createdWhole, complete, program,
    warnings, earlier, later, first, second, both⟩

end SpriteScript
