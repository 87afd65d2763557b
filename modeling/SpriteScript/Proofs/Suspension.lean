import Mathlib.Data.List.Pairwise
import SpriteScript.Proofs.Relexing
import SpriteScript.Proofs.Rendering

/-!
# Where waiting is written

A wait is written as a line that suspends the function around it, so it has to stand
between the line that opens a handler and the line that closes the same handler. Each
line of code plays one of four roles for this: it opens a handler, closes one,
suspends, or does none of it.

An event is only found at the root of a script. Its handler stands around its body,
and what comes next in the script is written after the handler was closed. All waits
of a program are therefore inside handlers exactly if none is reached from the link
that leads on from a root.
-/

namespace SpriteScript

/-- A block that waits. The name alone would not do: a block of another family with that
name is not supported and leaves a comment. -/
def Block.IsWait (block : Block) : Prop :=
  block.kind = .control ∧ block.name = .text "wait"

instance (block : Block) : Decidable block.IsWait :=
  inferInstanceAs (Decidable (_ ∧ _))

/-- A wait is reached from the link, through the bodies that are written and the links
onward. -/
def Program.Waits (program : Program) (link : Datum) : Prop :=
  ∃ place block, program.Reaches link place ∧ program.blocks[place]? = some block ∧ block.IsWait

/-- A script goes on to a wait after its event. This happens when braces close the body of
the event and statements follow them. -/
def Program.WaitsAfterEvent (program : Program) : Prop :=
  ∃ root ∈ program.scripts, ∃ event, program.block? root = some event ∧ program.Waits event.next

variable {program : Program}

/-- A wait is reached from a link to a block if the block waits, or if one is reached from
its body, if that is written, or from the link to the block after it. -/
theorem Program.waits_iff {link : Datum} {place : Nat} {block : Block}
    (named : Program.index? link = some place) (found : program.blocks[place]? = some block) :
    program.Waits link ↔
      block.IsWait ∨ (block.EntersBody ∧ program.Waits block.body) ∨ program.Waits block.next := by
  constructor
  · rintro ⟨other, stored, reaches, present, waits⟩
    rcases (Program.reaches_iff named found other).mp reaches with rfl | ⟨enters, inside⟩ | after
    · cases Option.some.inj (found.symm.trans present)
      exact .inl waits
    · exact .inr (.inl ⟨enters, other, stored, inside, present, waits⟩)
    · exact .inr (.inr ⟨other, stored, after, present, waits⟩)
  · have onward := Program.reaches_iff named found
    rintro (waits | ⟨enters, other, stored, inside, present, waits⟩ |
      ⟨other, stored, after, present, waits⟩)
    · exact ⟨place, block, (onward place).mpr (.inl rfl), found, waits⟩
    · exact ⟨other, stored, (onward other).mpr (.inr (.inl ⟨enters, inside⟩)), present, waits⟩
    · exact ⟨other, stored, (onward other).mpr (.inr (.inr after)), present, waits⟩

/-- The tree of a script has an event for its root and no other event. Its two parts are
named, since the body is written inside of the handler and what comes next is not. -/
structure Tree.IsScript (program : Program) (tree : Tree) (place : Nat) (stored : Block)
    (body next : Tree) : Prop where
  shape : tree = .block place stored body next
  event : stored.name = .text "when"
  inner : ∀ node ∈ body.nodes ++ next.nodes, node.2.name ≠ .text "when"
  onward : Unfolds program stored.next next

/-- The trees of a parsed program are scripts: an event inside of one would be the root of
another, and no place is in two trees or twice in one. -/
theorem Program.Preordered.script_tree (ordered : program.Preordered) {trees : List Tree}
    (unfold : List.Forall₂ (Unfolds program) program.scripts trees)
    (distinct : (trees.flatMap Tree.places).Nodup) {root : Datum} {tree : Tree}
    (member : tree ∈ trees) (listed : root ∈ program.scripts)
    (unfolds : Unfolds program root tree) :
    ∃ place stored body next, program.block? root = some stored ∧
      tree.IsScript program place stored body next := by
  obtain ⟨separate, disjoint⟩ := List.nodup_flatMap.mp distinct
  obtain ⟨place, stored, rfl, found, named⟩ := ordered.rooted root listed
  obtain ⟨body, next, rfl, after, _, _⟩ := unfolds.block_cases rfl found
  refine ⟨place, stored, body, next, found, rfl, named, ?_, after⟩
  intro node inner event
  have inside : node.1 ∈ body.places ++ next.places := by
    rw [← body.map_fst_nodes, ← next.map_fst_nodes, ← List.map_append]
    exact List.mem_map_of_mem inner
  have present := unfolds.nodes_stored node (List.mem_cons_of_mem _ inner)
  obtain ⟨other, among, leads⟩ :=
    (exists_of_forall₂ unfold).1 _ (ordered.events node.1 node.2 present event)
  have first : node.1 ∈ other.places :=
    (leads.mem_places_iff node.1).mpr (.here _ node.1 node.2 rfl present)
  -- If the event is the root of this very tree, it stands there twice. If it is the root of
  -- another tree, the two trees share its place.
  by_cases same : other = .block place stored body next
  · obtain ⟨_, _, begins, _⟩ := leads.block_cases rfl present
    have again : node.1 = place := by
      rw [same] at begins
      exact (Tree.block.inj begins).1.symm
    exact (List.nodup_cons.mp (separate _ member)).1 (again ▸ inside)
  · have symmetric : Std.Symm (Function.onFun List.Disjoint Tree.places) :=
      ⟨fun _ _ apart _ left right => apart right left⟩
    exact disjoint.forall among member same first (List.mem_cons_of_mem _ inside)

namespace JavaScript

/-- What a line of code does about handlers: it opens one, closes one, suspends the
function around it, or does none of these. -/
inductive Role where
  | opens
  | closes
  | suspends
  | plain
deriving DecidableEq

/-- The lines that play a role. A plain line may be any, so it is the roles that are shown
to be right, and lines only have to fit them. -/
def Role.Plays : Role → Text → Prop
  | .opens, line => ∃ indent,
    line = indented indent "document.addEventListener('DOMContentLoaded', async function() \x7b\n" ∨
      line = indented indent "document.addEventListener('keydown', async function(event) \x7b\n"
  | .closes, line => ∃ indent, line = indented indent "\x7d);\n\n"
  | .suspends, line => ∃ indent seconds, line = indented indent
    ("await new Promise(resolve => setTimeout(resolve, " ++ seconds ++ " * 1000));\n")
  | .plain, _ => True

/-- The roles of the lines of a block, around those of its body. They are given by the form
of the block alone, except that a wait is told from the other statements. -/
def blockRoles (block : Block) (inside : List Role) : List Role :=
  match blockForm block with
  | .start => .plain :: .opens :: (inside ++ [.closes])
  | .key _ => .plain :: .opens :: (.plain :: (inside ++ [.plain]) ++ [.closes])
  | .loop => .plain :: (inside ++ [.plain])
  | .conditional => .plain :: (inside ++ [.plain])
  | .statement =>
    if block.IsWait then [.suspends] else (fragment {} block).opening.map fun _ => .plain

end JavaScript

/-- The roles of the lines that a tree is rendered as, in their order. A body that is not
written is not in the tree. -/
def Tree.roles : Tree → List JavaScript.Role
  | .nothing => []
  | .block _ stored body next => JavaScript.blockRoles stored body.roles ++ next.roles

namespace JavaScript

/-- A wait is a statement, so it has no body. -/
theorem blockForm_of_wait {block : Block} (waits : block.IsWait) : blockForm block = .statement := by
  obtain ⟨family, named⟩ := waits
  have form := @blockForm_keyword block .wait named
  rw [family] at form
  exact form

/-- A wait is written as one line, which suspends. How long it waits is left open. -/
theorem opening_of_wait {block : Block} (waits : block.IsWait)
    (whole : (fragment {} block).failure = none) :
    ∃ seconds : Text, (fragment {} block).opening =
      ["await new Promise(resolve => setTimeout(resolve, " ++ seconds ++ " * 1000));" ++ "\n"] := by
  obtain ⟨family, named⟩ := waits
  have code : fragment {} block = .ofExcept (waitFragment {} block) := by
    have known := @fragment_keyword {} block .wait named
    rw [family] at known
    exact known
  rw [code, waitFragment] at whole ⊢
  cases given : argumentAt block 0 with
  | error error =>
    rw [given] at whole
    cases whole
  | ok argument =>
    obtain ⟨seconds, warnings⟩ := argument
    exact ⟨seconds, rfl⟩

/-- The lines of a block play their roles if those of its body do. There is one case for
each form; the body is rendered wherever the form puts it. -/
theorem renderBlock_plays {indent loops : Nat} {block : Block}
    {body : Nat → Nat → Except Error Output} {output : Output} {inside : List Role}
    (rendered : renderBlock indent loops block body = .ok output)
    (inner : ∀ deeper around within, body deeper around = .ok within →
      List.Forall₂ Role.Plays inside within.lines) :
    List.Forall₂ Role.Plays (blockRoles block inside) output.lines := by
  have plain : ∀ line, Role.Plays .plain line := fun _ => trivial
  have closes : Role.Plays .closes (indented indent "\x7d);\n\n") := ⟨indent, rfl⟩
  unfold renderBlock at rendered
  unfold blockRoles
  cases form : blockForm block with
  | start =>
    rw [form] at rendered
    obtain ⟨within, entered, rendered⟩ := exists_ok_of_bind rendered
    cases rendered
    refine .cons (plain _) (.cons ⟨indent, .inl rfl⟩ ?_)
    exact List.rel_append (inner _ _ within entered) (.cons closes .nil)
  | key event =>
    rw [form] at rendered
    obtain ⟨key, _, rendered⟩ := exists_ok_of_bind rendered
    obtain ⟨within, entered, rendered⟩ := exists_ok_of_bind rendered
    cases rendered
    refine .cons (plain _) (.cons ⟨indent, .inr rfl⟩ (.cons (plain _) ?_))
    show List.Forall₂ Role.Plays (inside ++ [.plain] ++ [.closes]) (within.lines ++ [_, _])
    rw [List.append_assoc]
    exact List.rel_append (inner _ _ within entered) (.cons (plain _) (.cons closes .nil))
  | loop =>
    rw [form] at rendered
    obtain ⟨_, _, rendered⟩ := exists_ok_of_bind rendered
    obtain ⟨within, entered, rendered⟩ := exists_ok_of_bind rendered
    cases rendered
    exact .cons (plain _) (List.rel_append (inner _ _ within entered) (.cons (plain _) .nil))
  | conditional =>
    rw [form] at rendered
    obtain ⟨_, _, rendered⟩ := exists_ok_of_bind rendered
    obtain ⟨within, entered, rendered⟩ := exists_ok_of_bind rendered
    cases rendered
    exact .cons (plain _) (List.rel_append (inner _ _ within entered) (.cons (plain _) .nil))
  | statement =>
    rw [form] at rendered
    dsimp only [renderStatement] at rendered
    split at rendered
    · cases rendered
    · rename_i whole
      cases rendered
      dsimp only
      split
      · rename_i waits
        obtain ⟨seconds, opening⟩ := opening_of_wait waits whole
        rw [opening]
        refine .cons ⟨indent, seconds, ?_⟩ .nil
        rw [List.append_assoc]
        rfl
      · rw [List.forall₂_map_left_iff, List.forall₂_map_right_iff, List.forall₂_same]
        exact fun line _ => plain _

/-- The lines of a tree play the roles that it gives them, at any depth. The induction is
on the tree. -/
theorem renderTree_plays {indent loops : Nat} {tree : Tree} {output : Output}
    (rendered : renderTree indent loops tree = .ok output) :
    List.Forall₂ Role.Plays tree.roles output.lines := by
  induction tree generalizing indent loops output with
  | nothing =>
    cases rendered
    exact .nil
  | block place stored body next bodyHypothesis nextHypothesis =>
    obtain ⟨here, first, rendered⟩ := exists_ok_of_bind rendered
    obtain ⟨after, later, rendered⟩ := exists_ok_of_bind rendered
    cases rendered
    exact List.rel_append
      (renderBlock_plays first fun _ _ _ within => bodyHypothesis within) (nextHypothesis later)

/-- The lines of several scripts play the roles of their trees one after the other. -/
theorem renderForest_plays {trees : List Tree} {output : Output}
    (rendered : renderForest trees = .ok output) :
    List.Forall₂ Role.Plays (trees.flatMap Tree.roles) output.lines := by
  induction trees generalizing output with
  | nil =>
    cases rendered
    exact .nil
  | cons tree rest inductionHypothesis =>
    obtain ⟨here, first, rendered⟩ := exists_ok_of_bind rendered
    obtain ⟨after, later, rendered⟩ := exists_ok_of_bind rendered
    cases rendered
    rw [List.flatMap_cons]
    exact List.rel_append (renderTree_plays first) (inductionHypothesis later)

/-- Every line that suspends stands between a line that opens a handler and the line that
closes it: no other handler is opened or closed between them. -/
def Guarded (roles : List Role) : Prop :=
  ∀ before after, roles = before ++ .suspends :: after →
    ∃ outside inside remaining beyond, before = outside ++ .opens :: inside ∧
      after = remaining ++ .closes :: beyond ∧
      ∀ role ∈ inside ++ remaining, role ≠ .opens ∧ role ≠ .closes

/-- No handler is opened or closed. Such lines are in the handler that was open before
them, if there was one. -/
def Calm (roles : List Role) : Prop :=
  ∀ role ∈ roles, role ≠ .opens ∧ role ≠ .closes

/-- Every handler that is opened is closed later. After such lines no handler is open. -/
def Settled (roles : List Role) : Prop :=
  ∀ outside inside, roles = outside ++ .opens :: inside → .closes ∈ inside

/-- Lines that are calm one by one are calm together. -/
theorem Calm.append {first second : List Role} (calm : Calm first) (calmLater : Calm second) :
    Calm (first ++ second) := by
  intro role member
  exact (List.mem_append.mp member).elim (calm role) (calmLater role)

/-- Lines around a body that open nothing and close nothing keep its calm. -/
theorem Calm.around {inside : List Role} (calm : Calm inside) :
    Calm (.plain :: (inside ++ [.plain])) := by
  have plain : Calm [.plain] := by simp [Calm]
  exact plain.append (calm.append plain)

/-- An entry of two lists, one after the other, is in the first or in the second, and the
lists are cut there. -/
theorem split_append {first second before after : List Role} {role : Role}
    (whole : first ++ second = before ++ role :: after) :
    (∃ rest, first = before ++ role :: rest ∧ after = rest ++ second) ∨
      ∃ rest, before = first ++ rest ∧ second = rest ++ role :: after := by
  rcases List.append_eq_append_iff.mp whole with ⟨rest, earlier, later⟩ | ⟨rest, earlier, later⟩
  · exact .inr ⟨rest, earlier, later⟩
  · cases rest with
    | nil =>
      rw [List.append_nil] at earlier
      exact .inr ⟨[], by rw [earlier, List.append_nil], later.symm⟩
    | cons head rest =>
      obtain ⟨rfl, same⟩ := List.cons.inj later
      exact .inl ⟨rest, earlier, same⟩

/-- Where no handler is opened there is none to close. -/
theorem settled_of_unopened {roles : List Role} (unopened : .opens ∉ roles) : Settled roles := by
  intro outside inside whole
  exact absurd (by simp [whole]) unopened

/-- Calm lines open no handler, so nothing is left open after them. -/
theorem Calm.settled {roles : List Role} (calm : Calm roles) : Settled roles :=
  settled_of_unopened fun opened => (calm .opens opened).1 rfl

/-- Lines after which no handler is open may follow each other. -/
theorem Settled.append {first second : List Role} (settled : Settled first)
    (settledLater : Settled second) : Settled (first ++ second) := by
  intro outside inside whole
  rcases split_append whole with ⟨rest, here, rfl⟩ | ⟨rest, _, there⟩
  · exact List.mem_append_left _ (settled outside rest here)
  · exact settledLater rest inside there

/-- Where nothing suspends there is nothing to guard. -/
theorem guarded_of_absent {roles : List Role} (absent : .suspends ∉ roles) : Guarded roles := by
  intro before after whole
  exact absurd (by simp [whole]) absent

/-- Guarded lines may follow each other: what guards a suspension stands on the same side
as the suspension. -/
theorem Guarded.append {first second : List Role} (guarded : Guarded first)
    (guardedLater : Guarded second) : Guarded (first ++ second) := by
  intro before after whole
  rcases split_append whole with ⟨rest, here, rfl⟩ | ⟨rest, rfl, there⟩
  · obtain ⟨outside, inside, remaining, beyond, opened, rfl, calm⟩ := guarded before rest here
    exact ⟨outside, inside, remaining, beyond ++ second, opened, by simp, calm⟩
  · obtain ⟨outside, inside, remaining, beyond, rfl, closed, calm⟩ :=
      guardedLater rest after there
    exact ⟨first ++ outside, inside, remaining, beyond, by simp, closed, calm⟩

/-- A handler around calm lines is closed by its own end. -/
theorem settled_handler {inside : List Role} (calm : Calm inside) :
    Settled (.plain :: .opens :: (inside ++ [.closes])) := by
  have closed : Settled (inside ++ [.closes]) :=
    calm.settled.append (settled_of_unopened (by simp))
  intro outside later whole
  rcases @split_append [.plain, .opens] _ _ _ _ whole with ⟨rest, here, rfl⟩ | ⟨rest, _, there⟩
  · exact List.mem_append_right _ (by simp)
  · exact closed rest later there

/-- A handler around calm lines guards what is inside of it: a suspension is among the calm
lines, and so nothing else is opened or closed up to either end. -/
theorem guarded_handler {inside : List Role} (calm : Calm inside) :
    Guarded (.plain :: .opens :: (inside ++ [.closes])) := by
  intro before after whole
  rcases @split_append [.plain, .opens] _ _ _ _ whole with ⟨rest, here, _⟩ | ⟨rest, rfl, there⟩
  · have listed : Role.suspends ∈ [Role.plain, Role.opens] := by simp [here]
    exact absurd listed (by decide)
  rcases split_append there with ⟨remaining, here, rfl⟩ | ⟨beyond, _, final⟩
  · refine ⟨[.plain], rest, remaining, [], rfl, rfl, ?_⟩
    intro role member
    apply calm role
    rw [here]
    rcases List.mem_append.mp member with earlier | later
    · exact List.mem_append_left _ earlier
    · exact List.mem_append_right _ (List.mem_cons_of_mem _ later)
  · have listed : Role.suspends ∈ [Role.closes] := by simp [final]
    exact absurd listed (by decide)

/-- Only events are written as handlers. Any other block is a loop, a conditional or a
statement. -/
theorem blockForm_inner {block : Block} (inner : block.name ≠ .text "when") :
    blockForm block = .loop ∨ blockForm block = .conditional ∨ blockForm block = .statement := by
  unfold blockForm
  rw [if_neg fun event => inner event.2]
  split
  · exact .inl rfl
  · split
    · exact .inr (.inl rfl)
    · exact .inr (.inr rfl)

/-- A block that is no event keeps the calm of its body, and a statement is calm as it is. -/
theorem calm_blockRoles {block : Block} {inside : List Role} (inner : block.name ≠ .text "when")
    (calm : Calm inside) : Calm (blockRoles block inside) := by
  unfold blockRoles
  rcases blockForm_inner inner with form | form | form
  · rw [form]
    exact calm.around
  · rw [form]
    exact calm.around
  · rw [form]
    dsimp only
    split
    · simp [Calm]
    · simp [Calm]

/-- A tree without an event is written in calm lines. The induction is on the tree, whose
blocks are all no events. -/
theorem calm_roles {tree : Tree} (inner : ∀ node ∈ tree.nodes, node.2.name ≠ .text "when") :
    Calm tree.roles := by
  induction tree with
  | nothing => nofun
  | block place stored body next bodyHypothesis nextHypothesis =>
    rw [Tree.nodes, List.forall_mem_cons, List.forall_mem_append] at inner
    exact (calm_blockRoles inner.1 (bodyHypothesis inner.2.1)).append (nextHypothesis inner.2.2)

/-- An event is no loop and no conditional, whatever its argument is. -/
theorem eventForm_around (event : Argument) :
    eventForm event ≠ .loop ∧ eventForm event ≠ .conditional := by
  unfold eventForm
  split
  · split
    · simp
    · split <;> simp
  · simp

/-- A block that is named like an event is no loop and no conditional, whatever its family
is. -/
theorem blockForm_event {block : Block} (event : block.name = .text "when") :
    blockForm block ≠ .loop ∧ blockForm block ≠ .conditional := by
  rw [@blockForm_keyword block .whenEvent event]
  cases block.kind with
  | event => exact eventForm_around _
  | _ => simp

/-- What is written for an event is closed and guards the body. An event that is not known
is a comment, and no wait. -/
theorem settled_event {block : Block} {inside : List Role} (event : block.name = .text "when")
    (calm : Calm inside) :
    Settled (blockRoles block inside) ∧ Guarded (blockRoles block inside) := by
  have waitless : ¬ block.IsWait := by
    rintro ⟨_, named⟩
    rw [event] at named
    revert named
    decide
  obtain ⟨noLoop, noConditional⟩ := blockForm_event event
  unfold blockRoles
  cases form : blockForm block with
  | start => exact ⟨settled_handler calm, guarded_handler calm⟩
  | key event => exact ⟨settled_handler calm.around, guarded_handler calm.around⟩
  | loop => exact absurd form noLoop
  | conditional => exact absurd form noConditional
  | statement =>
    dsimp only
    rw [if_neg waitless]
    exact ⟨settled_of_unopened (by simp), guarded_of_absent (by simp)⟩

/-- A block with a body suspends where its body does, since its own lines do not. -/
theorem suspends_entered {block : Block} {inside : List Role} (enters : block.EntersBody) :
    .suspends ∈ blockRoles block inside ↔ .suspends ∈ inside := by
  have form : blockForm block ≠ .statement := fun same =>
    (blockForm_statement block).mp same enters
  unfold blockRoles
  split
  · simp
  · simp
  · simp
  · simp
  · rename_i same
    exact absurd same form

/-- A block without a body suspends if it waits, and in no other case. -/
theorem suspends_passed {block : Block} {inside : List Role} (leaves : ¬ block.EntersBody) :
    .suspends ∈ blockRoles block inside ↔ block.IsWait := by
  unfold blockRoles
  rw [(blockForm_statement block).mpr leaves]
  by_cases waits : block.IsWait
  · simp [waits]
  · simp [waits]

end JavaScript

/-- A line suspends exactly if a wait is reached. The induction is along the tree, which
holds the bodies that are written and no others. -/
theorem Unfolds.suspends_iff {link : Datum} {tree : Tree} (unfolds : Unfolds program link tree) :
    .suspends ∈ tree.roles ↔ program.Waits link := by
  induction unfolds with
  | nowhere =>
    refine ⟨nofun, ?_⟩
    rintro ⟨place, block, reaches, _⟩
    cases reaches with
    | here _ _ _ named => cases named
    | body _ _ _ found => cases found
    | next _ _ _ found => cases found
  | entered link place stored body next named found enters _ _ bodyHypothesis nextHypothesis =>
    have waitless : ¬ stored.IsWait := fun waits =>
      (JavaScript.blockForm_statement stored).mp (JavaScript.blockForm_of_wait waits) enters
    rw [Tree.roles, List.mem_append, JavaScript.suspends_entered enters, bodyHypothesis,
      nextHypothesis, Program.waits_iff named found]
    simp [waitless, enters]
  | passed link place stored next named found leaves _ nextHypothesis =>
    rw [Tree.roles, List.mem_append, JavaScript.suspends_passed leaves, nextHypothesis,
      Program.waits_iff named found]
    simp [leaves]

namespace JavaScript

/-- The lines of a script: those of its event, which are closed and guard the body, and
those of what comes next, which open and close nothing. -/
theorem roles_script {tree : Tree} {place : Nat} {stored : Block} {body next : Tree}
    (script : tree.IsScript program place stored body next) :
    tree.roles = blockRoles stored body.roles ++ next.roles ∧
      Settled (blockRoles stored body.roles) ∧ Guarded (blockRoles stored body.roles) ∧
      Calm next.roles := by
  obtain ⟨rfl, event, inner, _⟩ := script
  rw [List.forall_mem_append] at inner
  obtain ⟨settled, guarded⟩ := settled_event event (calm_roles inner.1)
  exact ⟨rfl, settled, guarded, calm_roles inner.2⟩

/-- After the lines of several scripts no handler is open, because each script closes its
own. -/
theorem settled_scripts {trees : List Tree} (scripts : ∀ tree ∈ trees,
    ∃ place stored body next, tree.IsScript program place stored body next) :
    Settled (trees.flatMap Tree.roles) := by
  induction trees with
  | nil => exact settled_of_unopened (by simp)
  | cons tree rest inductionHypothesis =>
    rw [List.forall_mem_cons] at scripts
    obtain ⟨⟨_, _, _, _, script⟩, later⟩ := scripts
    obtain ⟨roles, settled, _, calm⟩ := roles_script script
    rw [List.flatMap_cons, roles]
    exact (settled.append calm.settled).append (inductionHypothesis later)

/-- If no script suspends after its event, all suspensions are guarded. The induction is on
the scripts, which do not share a handler. -/
theorem guarded_scripts {trees : List Tree} (scripts : ∀ tree ∈ trees,
    ∃ place stored body next, tree.IsScript program place stored body next ∧
      .suspends ∉ next.roles) :
    Guarded (trees.flatMap Tree.roles) := by
  induction trees with
  | nil => exact guarded_of_absent (by simp)
  | cons tree rest inductionHypothesis =>
    rw [List.forall_mem_cons] at scripts
    obtain ⟨⟨_, _, _, next, script, absent⟩, later⟩ := scripts
    obtain ⟨roles, _, guarded, _⟩ := roles_script script
    rw [List.flatMap_cons, roles]
    exact (guarded.append (guarded_of_absent absent)).append (inductionHypothesis later)

/-- A script that suspends after its event is not guarded: all handlers that were opened
before are closed again. So what guards it would have to be closed between. -/
theorem absent_of_guarded {trees : List Tree} (scripts : ∀ tree ∈ trees,
    ∃ place stored body next, tree.IsScript program place stored body next)
    (guarded : Guarded (trees.flatMap Tree.roles)) {tree : Tree} (member : tree ∈ trees)
    {place : Nat} {stored : Block} {body next : Tree}
    (script : tree.IsScript program place stored body next) : .suspends ∉ next.roles := by
  intro suspends
  obtain ⟨roles, settled, _, calm⟩ := roles_script script
  -- The lines are cut at the suspension. All that stands before it is settled.
  obtain ⟨before, after, later⟩ := List.append_of_mem suspends
  obtain ⟨earlier, others, rfl⟩ := List.append_of_mem member
  have closed : Settled (earlier.flatMap Tree.roles ++ (blockRoles stored body.roles ++ before)) := by
    have settledEarlier := settled_scripts fun tree listed =>
      scripts tree (List.mem_append_left _ listed)
    have calmBefore : Calm before := fun role listed =>
      calm role (later ▸ List.mem_append_left _ listed)
    exact settledEarlier.append (settled.append calmBefore.settled)
  obtain ⟨outside, inside, _, _, opened, _, quiet⟩ := guarded
    (earlier.flatMap Tree.roles ++ (blockRoles stored body.roles ++ before))
    (after ++ others.flatMap Tree.roles) (by simp [roles, later])
  have closes := closed outside inside opened
  exact (quiet .closes (List.mem_append_left _ closes)).2 rfl

/-- In the forest of a parsed program all suspensions are guarded exactly if no script goes
on to a wait after its event. Scripts are taken from their trees in one direction, and
trees from their roots in the other. -/
theorem guarded_iff (ordered : program.Preordered) {trees : List Tree}
    (unfold : List.Forall₂ (Unfolds program) program.scripts trees)
    (distinct : (trees.flatMap Tree.places).Nodup) :
    Guarded (trees.flatMap Tree.roles) ↔ ¬ program.WaitsAfterEvent := by
  obtain ⟨treeOf, rootOf⟩ := exists_of_forall₂ unfold
  have scripts : ∀ tree ∈ trees,
      ∃ place stored body next, tree.IsScript program place stored body next := by
    intro tree member
    obtain ⟨root, listed, unfolds⟩ := rootOf tree member
    obtain ⟨place, stored, body, next, _, script⟩ :=
      ordered.script_tree unfold distinct member listed unfolds
    exact ⟨place, stored, body, next, script⟩
  constructor
  · rintro guarded ⟨root, listed, event, found, waits⟩
    obtain ⟨tree, member, unfolds⟩ := treeOf root listed
    obtain ⟨place, stored, body, next, present, script⟩ :=
      ordered.script_tree unfold distinct member listed unfolds
    cases Option.some.inj (present.symm.trans found)
    rw [← script.onward.suspends_iff] at waits
    exact absent_of_guarded scripts guarded member script waits
  · intro waitless
    apply guarded_scripts
    intro tree member
    obtain ⟨root, listed, unfolds⟩ := rootOf tree member
    obtain ⟨place, stored, body, next, present, script⟩ :=
      ordered.script_tree unfold distinct member listed unfolds
    refine ⟨place, stored, body, next, script, ?_⟩
    rw [script.onward.suspends_iff]
    exact fun waits => waitless ⟨root, listed, stored, present, waits⟩

end JavaScript

/-- The lines that the scripts of a source are written as, which end its code, and the
roles that they play. The roles are those of the forest behind the scripts and not any that
fit. -/
structure ScriptLines (source : Text) (roles : List JavaScript.Role) (lines : List Text) :
    Prop where
  code : ∃ header, JavaScript.declarations (parse (tokenize source)) = .ok header ∧
    (compile (.text source)).result.output =
      .ok (JavaScript.preamble ++ (header ++ lines.flatten))
  forest : ∃ trees,
    List.Forall₂ (Unfolds (parse (tokenize source))) (parse (tokenize source)).scripts trees ∧
      roles = trees.flatMap Tree.roles
  plays : List.Forall₂ JavaScript.Role.Plays roles lines

/-- The scripts of a source are written as lines that play the roles of its forest. -/
theorem scriptLines_of_rendered {source header : Text} {trees : List Tree}
    {output : JavaScript.Output}
    (declared : JavaScript.declarations (parse (tokenize source)) = .ok header)
    (unfold : List.Forall₂ (Unfolds (parse (tokenize source))) (parse (tokenize source)).scripts
      trees)
    (rendered : JavaScript.renderForest trees = .ok output)
    (compiled : (compile (.text source)).result.output =
      .ok (JavaScript.preamble ++ (header ++ output.lines.flatten))) :
    ScriptLines source (trees.flatMap Tree.roles) output.lines :=
  ⟨⟨header, declared, compiled⟩, ⟨trees, unfold, rfl⟩, JavaScript.renderForest_plays rendered⟩

/-- The suspensions in the code of a source are all inside handlers exactly if no script
of it goes on to a wait after its event. -/
theorem suspensions_guarded_iff (source : Text) :
    ∃ roles lines, ScriptLines source roles lines ∧
      (JavaScript.Guarded roles ↔ ¬ (parse (tokenize source)).WaitsAfterEvent) := by
  obtain ⟨header, trees, output, declared, unfold, rendered, distinct, compiled⟩ :=
    compile_renders source
  exact ⟨_, output.lines, scriptLines_of_rendered declared unfold rendered compiled,
    JavaScript.guarded_iff (Program.preordered_parse _) unfold distinct⟩

/-- A script that goes on to a wait after the braces of its event. -/
def continued : Text := "when flagClicked \x7b \x7d wait 1"

/-- The chain of `continued`: the wait is not in the body of the event. -/
def continuedChain : Chain :=
  .block .whenEvent [.text "flagClicked"] .done
    (.block .wait [Literal.argument "1"] .done .done)

/-- A place among the tokens of `continued`. -/
def continuedAt (place : Nat) : Cursor Text :=
  ⟨(["when", "flagClicked", "\x7b", "\x7d", "wait", "1"] : List Text).drop place, place⟩

namespace Grammar

/-- The tokens of `continued` are read as one script, step by step and with nothing left
over. -/
theorem continued_items :
    (items 0 (continuedAt 0)).value = [.script continuedChain] := by
  have args : arguments 0 Keyword.whenEvent.isScope (continuedAt 0).advance =
      ⟨[.text "flagClicked"], continuedAt 2, [], by decide⟩ := by
    rw [arguments_literal 0 _ rfl rfl (by decide), arguments_ended 0 _ (by rintro _ ⟨⟩; rfl)]
    rfl
  have event : block 0 .whenEvent (continuedAt 0).advance =
      ⟨([.text "flagClicked"], .done), continuedAt 4, [], by decide⟩ := by
    rw [block_braced 0 _ rfl (by rw [args]; rfl), args, chain_without_keyword _ false]
    · rfl
    · rfl
  have seconds : arguments 0 Keyword.wait.isScope (continuedAt 4).advance =
      ⟨[Literal.argument "1"], continuedAt 6, [], by decide⟩ := by
    rw [arguments_literal 0 _ rfl rfl (by decide), arguments_ended 0 _ (by rintro _ ⟨⟩)]
    rfl
  have wait : chain 0 false (continuedAt 4) =
      ⟨.block .wait [Literal.argument "1"] .done .done, continuedAt 6, [], by decide⟩ := by
    rw [@chain_with_block _ .wait 0 false rfl (by decide), block_plain 0 _ rfl, seconds,
      chain_without_keyword _ false]
    · rfl
    · rfl
  have script : chain 0 true (continuedAt 0) = ⟨continuedChain, continuedAt 6, [], by decide⟩ := by
    rw [@chain_with_block _ .whenEvent 0 true rfl (by decide), event]
    dsimp only
    rw [wait]
    rfl
  rw [@items_with_item _ 0 "when" rfl, item_when, script]
  show [_] ++ (items 0 (continuedAt 6)).value = _
  rw [items_ended 0 rfl]
  rfl

end Grammar

/-- The scripts of `continued` are parsed to its chain. -/
theorem parse_continued :
    parse (tokenize continued) = ({} : Program).addItem (.script continuedChain) := by
  have complete : ∀ token ∈ (continuedAt 0).rest, Token.Complete token := by
    show ∀ token ∈ (["when", "flagClicked", "\x7b", "\x7d", "wait", "1"] : List Text), _
    simp only [List.forall_mem_cons]
    exact ⟨.word _ _ rfl (by decide), .word _ _ rfl (by decide), .bracket _ rfl, .bracket _ rfl,
      .word _ _ rfl (by decide), .number [] _ [] (.inl rfl) rfl (List.forall_mem_nil _),
      List.forall_mem_nil _⟩
  have joined : continued = Text.joined " " (continuedAt 0).rest := by decide +kernel
  rw [joined, Token.tokenize_joined_of_complete complete]
  show (Grammar.items 0 (continuedAt 0)).value.foldl Program.addItem {} = _
  rw [Grammar.continued_items]
  rfl

/-- The tree of `continued`. -/
def continuedTree : Tree :=
  .block 0
    { kind := .event, name := .text "when", args := [.text "flagClicked"], next := .int 1 }
    .nothing
    (.block 1 { kind := .control, name := .text "wait", args := [Literal.argument "1"] }
      .nothing .nothing)

/-- The script of `continued` unfolds to its tree, in which the wait is beside the body. -/
theorem continued_unfolds : Unfolds (parse (tokenize continued)) (.int 0) continuedTree := by
  rw [parse_continued]
  have wait : Unfolds (({} : Program).addItem (.script continuedChain)) (.int 1) (.block 1 _ _ _) :=
    .passed _ _ _ _ rfl rfl (by decide) .nowhere
  exact .entered _ _ _ _ _ rfl rfl (by decide) .nowhere wait

/-- The lines of `continued`. -/
def continuedLines : List Text :=
  ["// When green flag clicked\n",
    "document.addEventListener('DOMContentLoaded', async function() \x7b\n",
    "\x7d);\n\n",
    "await new Promise(resolve => setTimeout(resolve, 1 * 1000));\n"]

/-- The handler of `continued` is closed before its wait is written, which stands at the
margin. So the suspension is in no handler. -/
theorem continued_unguarded :
    ScriptLines continued [.plain, .opens, .closes, .suspends] continuedLines ∧
      ¬ JavaScript.Guarded [.plain, .opens, .closes, .suspends] := by
  have scripts : (parse (tokenize continued)).scripts = [.int 0] := by
    rw [parse_continued]
    rfl
  obtain ⟨header, output, declared, rendered, compiled⟩ :=
    compile_renders_script scripts continued_unfolds
  have unfold : List.Forall₂ (Unfolds (parse (tokenize continued)))
      (parse (tokenize continued)).scripts [continuedTree] := by
    rw [scripts]
    exact .cons continued_unfolds .nil
  have written := scriptLines_of_rendered declared unfold rendered compiled
  have lines : (JavaScript.renderForest [continuedTree]).toOption.map (·.lines) =
      some continuedLines := by
    decide +kernel
  rw [rendered] at lines
  have same : output.lines = continuedLines := Option.some.inj lines
  rw [same] at written
  refine ⟨written, ?_⟩
  intro guarded
  obtain ⟨_, _, remaining, beyond, _, closed, _⟩ :=
    guarded [.plain, .opens, .closes] [] rfl
  simp at closed

end SpriteScript
