import SpriteScript.Proofs.Forms
import SpriteScript.Proofs.Generation
import SpriteScript.Proofs.Totality
import SpriteScript.Proofs.Unfolding

/-!
# Generation is a recursive rendering

The tree behind a link is rendered by plain recursion, which knows how far the tree is
indented and how many loops are around it and nothing else. There is no agenda, and
nothing is remembered.

Whenever a program can be written, its code is the preamble, the declarations and
the renderings of its scripts. The agenda puts the lines of a block around those of
its body by itself; that it does so is the simulation here, one link at a time.
-/

namespace SpriteScript

namespace JavaScript

variable {program : Program}

/-- Lines of code with the warnings about them. Both are in the order in which they are
written. -/
structure Output where
  lines : List Text := []
  warnings : List Warning := []

/-- One output after the other. -/
instance : Append Output where
  append first second :=
    { lines := first.lines ++ second.lines, warnings := first.warnings ++ second.warnings }

/-- An output between lines of its own block. The warnings of the block come first. -/
def Output.within (inside : Output) (opening closing : List Text) (warnings : List Warning) :
    Output where
  lines := opening ++ inside.lines ++ closing
  warnings := warnings ++ inside.warnings

/-- A statement: its lines at the margin, each indented. The counter of a loop does not
matter to it. -/
def renderStatement (indent : Nat) (block : Block) : Except Error Output :=
  match (fragment {} block).failure with
  | some error => .error error
  | none => .ok {
      lines := (fragment {} block).opening.map (indented indent)
      warnings := (fragment {} block).warnings }

/-- A block with its body, which is rendered further inside. Only a loop counts as
a loop around its body, and its counter has the number of the loops around it. -/
def renderBlock (indent loops : Nat) (block : Block)
    (body : Nat → Nat → Except Error Output) : Except Error Output :=
  match blockForm block with
  | .start => do
    let inside ← body (indent + 1) loops
    return inside.within
      [indented indent "// When green flag clicked\n",
        indented indent "document.addEventListener('DOMContentLoaded', async function() \x7b\n"]
      [indented indent "\x7d);\n\n"] []
  | .key event => do
    let key ← keyOf event block.args
    let inside ← body (indent + 2) loops
    return inside.within
      [indented indent ("// When " ++ key ++ " key pressed\n"),
        indented indent "document.addEventListener('keydown', async function(event) \x7b\n",
        indented (indent + 1) ("if (event.key.toLowerCase() === " ++
          Json.writtenText false (Text.lower key) ++ ") \x7b\n")]
      [indented (indent + 1) "\x7d\n", indented indent "\x7d);\n\n"] []
  | .loop => do
    let (count, missing) ← argumentAt block 0
    let inside ← body (indent + 1) (loops + 1)
    let counter : Text := "_i" ++ Decimal.intText loops
    return inside.within
      [indented indent ("for (let " ++ counter ++ " = 0; " ++ counter ++ " < " ++ count ++ "; " ++
        counter ++ "++) \x7b\n")]
      [indented indent "\x7d\n"] missing
  | .conditional => do
    let (condition, missing) ← argumentAt block 0
    let inside ← body (indent + 1) loops
    return inside.within [indented indent ("if (" ++ condition ++ ") \x7b\n")]
      [indented indent "\x7d\n"] missing
  | .statement => renderStatement indent block

/-- A tree: its block, around its body, and then what follows at the same place. -/
def renderTree (indent loops : Nat) : Tree → Except Error Output
  | .nothing => .ok {}
  | .block _ stored body next => do
    let here ← renderBlock indent loops stored fun inner around => renderTree inner around body
    let after ← renderTree indent loops next
    return here ++ after

/-- The trees of several scripts, one after the other and each at the margin. -/
def renderForest : List Tree → Except Error Output
  | [] => .ok {}
  | tree :: rest => do
    let first ← renderTree 0 0 tree
    let later ← renderForest rest
    return first ++ later

/-- The declarations of a program: its variables and its lists, up to the heading of the
scripts. They are written in the order in which the names were entered. -/
def declarations (program : Program) : Except Error Text := do
  let scalars ← program.variableTable.entries.mapM fun entry => variableLine entry.1 entry.2
  let lists ← program.listTable.entries.mapM fun entry => listLine entry.1 entry.2
  return "// Variables\n" ++ scalars.flatten ++ "\n" ++ "// Lists\n" ++ lists.flatten ++ "\n" ++
    "// Scripts\n"

/-- A fragment that was written is what the block is rendered as, if its body is
rendered where the fragment has a place for it, and is empty if there is none. -/
theorem renderBlock_fragment {scope : Scope} {block : Block}
    {body : Nat → Nat → Except Error Output} {inside : Output}
    (whole : (fragment scope block).failure = none)
    (entered : ∀ inner, (fragment scope block).body = some inner →
      body inner.indent inner.loops = .ok inside)
    (passed : (fragment scope block).body = none → inside = {}) :
    renderBlock scope.indent scope.loops block body =
      .ok (inside.within (fragment scope block).opening (fragment scope block).closing
        (fragment scope block).warnings) := by
  cases writing_of_block block with
  | failed warnings error fault made =>
    rw [made] at whole
    cases whole
  | line code warnings statement form made =>
    rw [passed (by rw [made, Fragment.line]), renderBlock, form]
    simp [renderStatement, made, Fragment.line, Output.within, indented]
  | start form made =>
    rw [made] at entered ⊢
    rw [renderBlock, form]
    dsimp only
    rw [entered _ rfl]
    rfl
  | key event key form first named made =>
    rw [made] at entered ⊢
    rw [renderBlock, form]
    dsimp only
    rw [named]
    show (body (scope.indent + 2) scope.loops >>= _) = _
    rw [entered _ rfl]
    rfl
  | loop count warnings form first made =>
    rw [made] at entered ⊢
    rw [renderBlock, form]
    dsimp only
    rw [first]
    show (body (scope.indent + 1) (scope.loops + 1) >>= _) = _
    rw [entered _ rfl]
    rfl
  | conditional condition warnings form first made =>
    rw [made] at entered ⊢
    rw [renderBlock, form]
    dsimp only
    rw [first]
    show (body (scope.indent + 1) scope.loops >>= _) = _
    rw [entered _ rfl]
    rfl

/-- A block that is rendered consists of its own lines around its body, or around nothing
if the body is not written. -/
theorem renderBlock_cases {indent loops : Nat} {block : Block}
    {body : Nat → Nat → Except Error Output} {output : Output}
    (rendered : renderBlock indent loops block body = .ok output) :
    ∃ inside, output = inside.within (fragment ⟨indent, loops⟩ block).opening
        (fragment ⟨indent, loops⟩ block).closing (fragment ⟨indent, loops⟩ block).warnings ∧
      ((∃ deeper around, body deeper around = .ok inside) ∨
        ¬ block.EntersBody ∧ inside = {}) := by
  have described := blockForm_describes ⟨indent, loops⟩ block
  unfold renderBlock at rendered
  cases form : blockForm block with
  | start =>
    rw [form] at described rendered
    obtain ⟨inside, entered, rendered⟩ := exists_ok_of_bind rendered
    cases rendered
    refine ⟨inside, ?_, .inl ⟨_, _, entered⟩⟩
    rw [show fragment ⟨indent, loops⟩ block = startHandler ⟨indent, loops⟩ from described]
    rfl
  | key event =>
    rw [form] at described rendered
    obtain ⟨key, named, rendered⟩ := exists_ok_of_bind rendered
    obtain ⟨inside, entered, rendered⟩ := exists_ok_of_bind rendered
    cases rendered
    refine ⟨inside, ?_, .inl ⟨_, _, entered⟩⟩
    rw [described, named]
    rfl
  | loop =>
    rw [form] at described rendered
    obtain ⟨count, counted, rendered⟩ := exists_ok_of_bind rendered
    obtain ⟨inside, entered, rendered⟩ := exists_ok_of_bind rendered
    cases rendered
    refine ⟨inside, ?_, .inl ⟨_, _, entered⟩⟩
    rw [described, repeatFragment, counted]
    rfl
  | conditional =>
    rw [form] at described rendered
    obtain ⟨condition, tested, rendered⟩ := exists_ok_of_bind rendered
    obtain ⟨inside, entered, rendered⟩ := exists_ok_of_bind rendered
    cases rendered
    refine ⟨inside, ?_, .inl ⟨_, _, entered⟩⟩
    rw [described, ifFragment, tested]
    rfl
  | statement =>
    rw [form] at rendered
    have steady := steady_statement form
    refine ⟨{}, ?_, .inr ⟨(blockForm_statement block).mp form, rfl⟩⟩
    rw [steady.unclosed ⟨indent, loops⟩, steady.lines ⟨indent, loops⟩,
      steady.warnings ⟨indent, loops⟩]
    dsimp only [renderStatement] at rendered
    split at rendered
    · cases rendered
    · cases rendered
      simp [Output.within]

/-- What was written, if writing goes on with an output and arrives at places. Marks of the
places are put in front of those that were there. -/
def Emission.after (emission : Emission) (places : List Nat) (output : Output) : Emission :=
  { emission with
    lines := emission.lines ++ output.lines
    warnings := emission.warnings ++ output.warnings
    visited := (places.map Mark.place).reverse ++ emission.visited }

/-- Outputs one after the other have their lines in that order. -/
@[simp]
theorem lines_append (first second : Output) :
    (first ++ second).lines = first.lines ++ second.lines := rfl

/-- Outputs one after the other have their warnings in that order. -/
@[simp]
theorem warnings_append (first second : Output) :
    (first ++ second).warnings = first.warnings ++ second.warnings := rfl

/-- Outputs are put together in their order, however they are grouped. -/
theorem Output.append_assoc (first second third : Output) :
    first ++ second ++ third = first ++ (second ++ third) := by
  show Output.mk _ _ = Output.mk _ _
  simp

/-- To go on twice is to go on with both outputs. -/
@[simp]
theorem Emission.after_after (emission : Emission) (places later : List Nat)
    (output second : Output) :
    (emission.after places output).after later second =
      emission.after (places ++ later) (output ++ second) := by
  simp [Emission.after]

/-- Lines that were formed, as an agenda. -/
abbrev texts (lines : List Text) : List Task :=
  lines.map fun line => .write (.ok line)

/-- Lines that were formed are written as they are. They bring no warnings and arrive
nowhere. -/
theorem emit_texts (lines : List Text) (later : List Task) (emission : Emission) :
    emit plainWriter program (texts lines ++ later) emission =
      emit plainWriter program later (emission.after [] { lines }) := by
  induction lines generalizing emission with
  | nil => simp [Emission.after]
  | cons line rest inductionHypothesis =>
    rw [texts, List.map_cons, List.cons_append, emit, inductionHypothesis]
    simp [Emission.after]

/-- If writing does not end with an error, all lines on the agenda were formed. -/
theorem emit_formed {Entry : Type} (line : Entry → Except Error Text) (entries : List Entry)
    (later : List Task) (emission : Emission)
    (sound : (emit plainWriter program (entries.map (fun entry => .write (line entry)) ++ later)
      emission).failure = none) :
    ∃ lines, entries.mapM line = .ok lines ∧
      emit plainWriter program (entries.map (fun entry => .write (line entry)) ++ later) emission =
        emit plainWriter program later (emission.after [] { lines }) := by
  induction entries generalizing emission with
  | nil => exact ⟨[], rfl, by simp [Emission.after]⟩
  | cons entry rest inductionHypothesis =>
    rw [List.map_cons, List.cons_append] at sound ⊢
    cases formed : line entry with
    | error error =>
      rw [formed, emit] at sound
      cases sound
    | ok text =>
      rw [formed, emit] at sound
      obtain ⟨lines, written, same⟩ := inductionHypothesis _ sound
      refine ⟨text :: lines, ?_, ?_⟩
      · rw [List.mapM_cons, formed, written]
        rfl
      · rw [emit, same]
        simp [Emission.after]

/-- If writing does not end with an error, the next link leads nowhere, or it leads
to a block that can be written and was not reached before. -/
theorem link_cases {scope : Scope} {link : Datum} {later : List Task} {emission : Emission}
    (sound : (emit plainWriter program (.follow scope link :: later) emission).failure = none) :
    link = .null ∨ ∃ place block, Program.index? link = some place ∧
      program.blocks[place]? = some block ∧ Mark.place place ∉ emission.visited ∧
      (fragment scope block).failure = none ∧
      emit plainWriter program (.follow scope link :: later) emission =
        emit plainWriter program
          ((fragment scope block).tasks block.body ++ .follow scope block.next :: later)
          (emission.after [place] { warnings := (fragment scope block).warnings }) := by
  cases walked : program.step emission.visited link with
  | finished => exact .inl (Program.eq_null_of_finished walked)
  | stopped error visited =>
    rw [emit_stopped scope later walked] at sound
    cases sound
  | arrived block visited =>
    right
    obtain ⟨place, named, found, fresh, rfl⟩ := Program.arrived_cases walked
    cases whole : (fragment scope block).failure with
    | some error =>
      rw [emit_reached scope later walked, whole] at sound
      cases sound
    | none =>
      refine ⟨place, block, named, found, fresh, whole, ?_⟩
      rw [emit_arrived scope later walked whole]
      simp [Emission.after]

/-- Before the rest of an agenda a link contributes the rendering of the tree behind it,
and arrives at the places of the tree, none of which was reached before. -/
structure Contributes (program : Program) (scope : Scope) (link : Datum) (later : List Task)
    (emission : Emission) (tree : Tree) (output : Output) : Prop where
  unfolds : Unfolds program link tree
  rendered : renderTree scope.indent scope.loops tree = .ok output
  distinct : (emission.after tree.places output).visited.Nodup
  written : emit plainWriter program (.follow scope link :: later) emission =
    emit plainWriter program later (emission.after tree.places output)

/-- A link that leads nowhere contributes nothing. -/
theorem contributes_nowhere (scope : Scope) (later : List Task) {emission : Emission}
    (distinct : emission.visited.Nodup) :
    Contributes program scope .null later emission .nothing {} := by
  have same : emission.after Tree.nothing.places {} = emission := by
    simp [Emission.after, Tree.places]
  refine ⟨.nowhere, rfl, ?_, ?_⟩
  · rwa [same]
  · rw [same, emit_nowhere]

/-- What the link to the block after a block contributes comes after the code of the
block. -/
theorem contributes_block {scope : Scope} {link : Datum} {later : List Task}
    {emission : Emission} {place : Nat} {block : Block} {body next : Tree} {here after : Output}
    (unfolds : Unfolds program link (.block place block body next))
    (rendered : renderBlock scope.indent scope.loops block
      (fun inner around => renderTree inner around body) = .ok here)
    (written : emit plainWriter program (.follow scope link :: later) emission =
      emit plainWriter program (.follow scope block.next :: later)
        (emission.after (place :: body.places) here))
    (onward : Contributes program scope block.next later
      (emission.after (place :: body.places) here) next after) :
    Contributes program scope link later emission (.block place block body next)
      (here ++ after) := by
  have same : (emission.after (place :: body.places) here).after next.places after =
      emission.after (Tree.block place block body next).places (here ++ after) := by
    rw [Emission.after_after]
    rfl
  refine ⟨unfolds, ?_, same ▸ onward.distinct, ?_⟩
  · rw [renderTree, rendered, onward.rendered]
    rfl
  · rw [written, onward.written, same]

/-- A block whose body is not written contributes its lines. -/
theorem emit_passed (program : Program) {scope : Scope} {block : Block} (later : List Task)
    (emission : Emission) (place : Nat) (standing : (fragment scope block).body = none) :
    emit plainWriter program ((fragment scope block).tasks block.body ++ later)
        (emission.after [place] { warnings := (fragment scope block).warnings }) =
      emit plainWriter program later (emission.after [place]
        (({} : Output).within (fragment scope block).opening (fragment scope block).closing
          (fragment scope block).warnings)) := by
  rw [Fragment.tasks, standing, Option.toList_none, List.map_nil, List.append_nil,
    List.append_assoc, emit_texts, emit_texts, Emission.after_after, Emission.after_after]
  simp [Emission.after, Output.within]

/-- A block whose body is written contributes the lines that open it, and its body is
then followed before the lines that close it. -/
theorem emit_opened (program : Program) {scope inner : Scope} {block : Block} (later : List Task)
    (emission : Emission) (place : Nat) (standing : (fragment scope block).body = some inner) :
    emit plainWriter program ((fragment scope block).tasks block.body ++ later)
        (emission.after [place] { warnings := (fragment scope block).warnings }) =
      emit plainWriter program
        (.follow inner block.body :: (texts (fragment scope block).closing ++ later))
        (emission.after [place]
          ⟨(fragment scope block).opening, (fragment scope block).warnings⟩) := by
  rw [Fragment.tasks, standing, Option.toList_some, List.map_singleton, List.append_assoc,
    List.append_assoc, emit_texts, List.singleton_append]
  simp [Emission.after]

/-- After its body the lines that close a block are written. -/
theorem emit_closed {link : Datum} {inner : Scope} {opening closing : List Text}
    {warnings : List Warning} {later : List Task} {emission : Emission} {place : Nat}
    {body : Tree} {inside : Output}
    (within : Contributes program inner link (texts closing ++ later)
      (emission.after [place] ⟨opening, warnings⟩) body inside) :
    emit plainWriter program (.follow inner link :: (texts closing ++ later))
        (emission.after [place] ⟨opening, warnings⟩) =
      emit plainWriter program later
        (emission.after (place :: body.places) (inside.within opening closing warnings)) := by
  rw [within.written, emit_texts]
  simp [Emission.after, Output.within]

/-- If writing does not end with an error, the next link contributes the rendering of
a tree.

The induction is on the places that were not reached yet. At a block it is used for
the body, if there is one, with the lines that close the block on the agenda, and for
the block after it. -/
theorem emit_link (scope : Scope) (link : Datum) (later : List Task) (emission : Emission)
    (distinct : emission.visited.Nodup)
    (sound : (emit plainWriter program (.follow scope link :: later) emission).failure = none) :
    ∃ tree output, Contributes program scope link later emission tree output := by
  induction room : program.unvisited emission.visited using Nat.strongRecOn
    generalizing scope link later emission with
  | ind bound unvisitedHypothesis =>
    rcases link_cases sound with rfl | ⟨place, block, named, found, fresh, whole, written⟩
    · exact ⟨_, _, contributes_nowhere scope later distinct⟩
    have nearer : program.unvisited (.place place :: emission.visited) < bound := by
      obtain ⟨bounded, _⟩ := List.getElem?_eq_some_iff.mp found
      exact room ▸ Program.unvisited_cons_place_lt program _ place bounded fresh
    have arrived : (Mark.place place :: emission.visited).Nodup := .cons fresh distinct
    rw [written] at sound
    cases standing : (fragment scope block).body with
    | none =>
      have leaves : ¬ block.EntersBody := by
        rw [← body_isSome_iff whole, standing]
        nofun
      rw [emit_passed program _ emission place standing] at sound written
      obtain ⟨next, after, onward⟩ := unvisitedHypothesis _ nearer _ _ _ _ arrived sound rfl
      have unfolds := Unfolds.passed link place block next named found leaves onward.unfolds
      have rendered := @renderBlock_fragment scope block
        (fun inner around => renderTree inner around .nothing) {} whole
        (fun _ _ => rfl) (fun _ => rfl)
      exact ⟨_, _, contributes_block unfolds rendered written onward⟩
    | some inner =>
      have enters : block.EntersBody := by
        rw [← body_isSome_iff whole, standing]
        rfl
      rw [emit_opened program _ emission place standing] at sound written
      obtain ⟨body, inside, within⟩ := unvisitedHypothesis _ nearer _ _ _ _ arrived sound rfl
      rw [emit_closed within] at sound written
      -- The body may have arrived at more places, so still fewer are left for what follows.
      have visited : ∀ output, (emission.after (place :: body.places) output).visited =
          (body.places.map Mark.place).reverse ++ Mark.place place :: emission.visited := by
        simp [Emission.after]
      have reached := within.distinct
      have fewer := Program.unvisited_append_le program (body.places.map Mark.place).reverse
        (.place place :: emission.visited)
      obtain ⟨next, after, onward⟩ := unvisitedHypothesis _ (Nat.lt_of_le_of_lt fewer nearer)
        _ _ _ _ (visited _ ▸ reached) sound (by rw [visited])
      have unfolds := Unfolds.entered link place block body next named found enters
        within.unfolds onward.unfolds
      have rendered := @renderBlock_fragment scope block
        (fun inner around => renderTree inner around body) inside whole
        (by rw [standing]; rintro _ ⟨⟩; exact within.rendered) (by rw [standing]; nofun)
      exact ⟨_, _, contributes_block unfolds rendered written onward⟩

/-- If writing does not end with an error, several links at the margin contribute the
rendering of the forest behind them, and all its places are different. -/
theorem emit_links (links : List Datum) (emission : Emission)
    (distinct : emission.visited.Nodup)
    (sound : (emit plainWriter program (links.map (.follow {} ·)) emission).failure = none) :
    ∃ trees output, List.Forall₂ (Unfolds program) links trees ∧
      renderForest trees = .ok output ∧
      (emission.after (trees.flatMap Tree.places) output).visited.Nodup ∧
      emit plainWriter program (links.map (.follow {} ·)) emission =
        emission.after (trees.flatMap Tree.places) output := by
  induction links generalizing emission with
  | nil =>
    refine ⟨[], {}, .nil, rfl, ?_, ?_⟩
    · simpa [Emission.after] using distinct
    · simp [Emission.after, emit]
  | cons link rest inductionHypothesis =>
    rw [List.map_cons] at sound ⊢
    obtain ⟨tree, output, first⟩ := emit_link _ _ _ _ distinct sound
    rw [first.written] at sound ⊢
    obtain ⟨trees, later, unfold, rendered, distinctLater, written⟩ :=
      inductionHypothesis _ first.distinct sound
    refine ⟨tree :: trees, output ++ later, .cons first.unfolds unfold, ?_, ?_, ?_⟩
    · have one : renderTree 0 0 tree = .ok output := first.rendered
      rw [renderForest, one, rendered]
      rfl
    · simpa using distinctLater
    · simpa using written

/-- The agenda of a program: headings, declarations that may not be formed, and links. -/
theorem generate_eq (program : Program) :
    generate program =
      emit plainWriter program (texts ["// Variables\n"] ++
        (program.variableTable.entries.map (fun entry => .write (variableLine entry.1 entry.2)) ++
          (texts ["\n", "// Lists\n"] ++
            (program.listTable.entries.map (fun entry => .write (listLine entry.1 entry.2)) ++
              (texts ["\n", "// Scripts\n"] ++ program.scripts.map (.follow {} ·)))))) {} := by
  simp [generate, agenda]

/-- If a program can be written, its declarations are written first, before any link
is followed. -/
theorem generate_declarations (sound : (generate program).failure = none) :
    ∃ lines, declarations program = .ok lines.flatten ∧
      generate program = emit plainWriter program (program.scripts.map (.follow {} ·)) { lines } := by
  rw [generate_eq, emit_texts] at sound ⊢
  obtain ⟨scalars, scalarsFormed, scalarsWritten⟩ := emit_formed _ _ _ _ sound
  rw [scalarsWritten, emit_texts] at sound ⊢
  obtain ⟨lists, listsFormed, listsWritten⟩ := emit_formed _ _ _ _ sound
  rw [listsWritten, emit_texts]
  refine ⟨(["// Variables\n"] : List Text) ++ scalars ++ (["\n", "// Lists\n"] : List Text) ++
    lists ++ (["\n", "// Scripts\n"] : List Text), ?_, ?_⟩
  · rw [declarations, scalarsFormed, listsFormed]
    simp [bind, Except.bind, pure, Except.pure]
  · simp [Emission.after]

/-- If a program can be written, what is written are its declarations and the
rendering of its scripts, and no place is in two of their trees or twice in one. -/
theorem generate_of_sound (sound : (generate program).failure = none) :
    ∃ header trees output, declarations program = .ok header ∧
      List.Forall₂ (Unfolds program) program.scripts trees ∧ renderForest trees = .ok output ∧
      (trees.flatMap Tree.places).Nodup ∧
      (generate program).text = header ++ output.lines.flatten ∧
      (generate program).warnings = output.warnings := by
  obtain ⟨lines, declared, written⟩ := generate_declarations sound
  rw [written] at sound ⊢
  obtain ⟨trees, output, unfold, rendered, distinct, emitted⟩ :=
    emit_links _ _ List.nodup_nil sound
  refine ⟨lines.flatten, trees, output, declared, unfold, rendered, ?_, ?_, ?_⟩
  · rw [Emission.after, List.append_nil, List.nodup_reverse] at distinct
    exact distinct.of_map _
  · rw [emitted]
    simp [Emission.after, Emission.text]
  · rw [emitted]
    simp [Emission.after]

/-- A handler with a loop inside a loop and a block after it, whose body would lead
back to the handler but is not written. The inner loop and the assignment in it lack an
argument. -/
def nested : Program where
  blocks := [
    { kind := .event, name := .text "when", args := [.text "keyPressed", .text "a"],
      body := .int 1 },
    { kind := .control, name := .text "repeat", args := [.text "n"], body := .int 2,
      next := .int 4 },
    { kind := .control, name := .text "repeat", body := .int 3 },
    { kind := .assignment, name := .text "set", args := [.text "n"] },
    { kind := .assignment, name := .text "change", args := [.text "n", .text "k"],
      body := .int 0 }]
  scripts := [.int 0]

end JavaScript

/-- Every source is compiled to its declarations and the rendering of the forest behind its
scripts. No place is rendered twice. -/
theorem compile_renders (source : Text) :
    ∃ header trees output, JavaScript.declarations (parse (tokenize source)) = .ok header ∧
      List.Forall₂ (Unfolds (parse (tokenize source))) (parse (tokenize source)).scripts trees ∧
      JavaScript.renderForest trees = .ok output ∧ (trees.flatMap Tree.places).Nodup ∧
      (compile (.text source)).result.output =
        .ok (JavaScript.preamble ++ (header ++ output.lines.flatten)) := by
  obtain ⟨code, written, compiled⟩ := compile_code source
  have sound := JavaScript.sound_of_code written
  obtain ⟨header, trees, output, declared, unfold, rendered, distinct, text, _⟩ :=
    JavaScript.generate_of_sound sound
  rw [JavaScript.code_of_sound sound, text, Except.ok.injEq] at written
  rw [← written] at compiled
  exact ⟨header, trees, output, declared, unfold, rendered, distinct, compiled⟩

/-- A source with one script is compiled to the rendering of the tree behind it. -/
theorem compile_renders_script {source : Text} {root : Datum} {tree : Tree}
    (scripts : (parse (tokenize source)).scripts = [root])
    (unfolds : Unfolds (parse (tokenize source)) root tree) :
    ∃ header output, JavaScript.declarations (parse (tokenize source)) = .ok header ∧
      JavaScript.renderForest [tree] = .ok output ∧
      (compile (.text source)).result.output =
        .ok (JavaScript.preamble ++ (header ++ output.lines.flatten)) := by
  obtain ⟨header, trees, output, declared, unfold, rendered, _, compiled⟩ := compile_renders source
  rw [scripts, List.forall₂_cons_left_iff] at unfold
  obtain ⟨other, rest, first, later, rfl⟩ := unfold
  rw [List.forall₂_nil_left_iff] at later
  rw [later, first.unique unfolds] at rendered
  exact ⟨header, output, declared, rendered, compiled⟩

end SpriteScript
