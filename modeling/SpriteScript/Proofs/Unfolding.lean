import SpriteScript.Proofs.Traversal

/-!
# Links unfold to trees

The blocks behind a link form a tree: a block, the tree of its body if that is
written, and the tree of what follows. The tree is a relation on the arena, so a link
that leads back to itself has none. Where there is one it is the only one, and its
places are those that are reached from the link.
-/

namespace SpriteScript

/-- The blocks behind a link as far as they are written, each with its place. A tree is
finite, so links that lead in a circle have none. -/
inductive Tree where
  | nothing
  | block (place : Nat) (stored : Block) (body next : Tree)

/-- The places of the blocks in the order in which they are written: a block, its body, and
what follows. -/
def Tree.places : Tree → List Nat
  | .nothing => []
  | .block place _ body next => place :: (body.places ++ next.places)

/-- The blocks of a tree with their places. -/
def Tree.nodes : Tree → List (Nat × Block)
  | .nothing => []
  | .block place stored body next => (place, stored) :: (body.nodes ++ next.nodes)

/-- The places of a tree are those of its nodes, in the same order. -/
theorem Tree.map_fst_nodes (tree : Tree) : tree.nodes.map Prod.fst = tree.places := by
  induction tree with
  | nothing => rfl
  | block place stored body next bodyHypothesis nextHypothesis =>
    rw [nodes, places, List.map_cons, List.map_append, bodyHypothesis, nextHypothesis]

/-- A link unfolds to the tree of the blocks behind it. A body that is not written
is left out. -/
inductive Unfolds (program : Program) : Datum → Tree → Prop where
  | nowhere : Unfolds program .null .nothing
  | entered (link : Datum) (place : Nat) (stored : Block) (body next : Tree)
      (named : Program.index? link = some place) (found : program.blocks[place]? = some stored)
      (enters : stored.EntersBody) (inside : Unfolds program stored.body body)
      (after : Unfolds program stored.next next) :
      Unfolds program link (.block place stored body next)
  | passed (link : Datum) (place : Nat) (stored : Block) (next : Tree)
      (named : Program.index? link = some place) (found : program.blocks[place]? = some stored)
      (leaves : ¬ stored.EntersBody) (after : Unfolds program stored.next next) :
      Unfolds program link (.block place stored .nothing next)

/-- The places that are reached from a link: the one that it names, those reached
from the body of the block there if that is written, and those reached from what
follows it. -/
inductive Program.Reaches (program : Program) : Datum → Nat → Prop where
  | here (link : Datum) (place : Nat) (block : Block)
      (named : Program.index? link = some place) (found : program.blocks[place]? = some block) :
      Reaches program link place
  | body (link : Datum) (place : Nat) (block : Block) (found : program.block? link = some block)
      (enters : block.EntersBody) (inside : Reaches program block.body place) :
      Reaches program link place
  | next (link : Datum) (place : Nat) (block : Block) (found : program.block? link = some block)
      (after : Reaches program block.next place) : Reaches program link place

variable {program : Program}

/-- The block at a place that a link names is the block that the link leads to. -/
theorem block?_of_index? {link : Datum} {place : Nat} {block : Block}
    (named : Program.index? link = some place) (found : program.blocks[place]? = some block) :
    program.block? link = some block :=
  Option.bind_eq_some_iff.mpr ⟨place, named, found⟩

/-- From a link to a block its place is reached, what is reached from its body if that
is written, and what is reached from the link to the block after it. -/
theorem Program.reaches_iff {link : Datum} {here : Nat} {block : Block}
    (named : Program.index? link = some here) (found : program.blocks[here]? = some block)
    (place : Nat) :
    program.Reaches link place ↔ place = here ∨
      (block.EntersBody ∧ program.Reaches block.body place) ∨
      program.Reaches block.next place := by
  have leads := block?_of_index? named found
  constructor
  · intro reaches
    cases reaches with
    | here _ _ _ again _ => exact .inl (Option.some.inj (again.symm.trans named))
    | body _ _ stored again enters inside =>
      cases Option.some.inj (again.symm.trans leads)
      exact .inr (.inl ⟨enters, inside⟩)
    | next _ _ stored again after =>
      cases Option.some.inj (again.symm.trans leads)
      exact .inr (.inr after)
  · rintro (rfl | ⟨enters, inside⟩ | after)
    · exact .here link place block named found
    · exact .body link place block leads enters inside
    · exact .next link place block leads after

/-- The places of a tree are those that are reached from its link. One way is by the tree,
the other by the path. -/
theorem Unfolds.mem_places_iff {link : Datum} {tree : Tree} (unfolds : Unfolds program link tree)
    (place : Nat) : place ∈ tree.places ↔ program.Reaches link place := by
  induction unfolds with
  | nowhere => exact ⟨nofun, nofun⟩
  | entered link here stored body next named found enters _ _ bodyHypothesis nextHypothesis =>
    simp [Tree.places, Program.reaches_iff named found, enters, bodyHypothesis, nextHypothesis]
  | passed link here stored next named found leaves _ nextHypothesis =>
    simp [Tree.places, Program.reaches_iff named found, leaves, nextHypothesis]

/-- The blocks of a tree are those at its places. The tree holds copies of them, so it can
be rendered without the program. -/
theorem Unfolds.nodes_stored {link : Datum} {tree : Tree} (unfolds : Unfolds program link tree) :
    ∀ node ∈ tree.nodes, program.blocks[node.1]? = some node.2 := by
  induction unfolds with
  | nowhere => nofun
  | entered link place stored body next named found enters _ _ bodyHypothesis nextHypothesis =>
    intro node member
    rw [Tree.nodes, List.mem_cons, List.mem_append] at member
    rcases member with rfl | inside | after
    · exact found
    · exact bodyHypothesis node inside
    · exact nextHypothesis node after
  | passed link place stored next named found leaves _ nextHypothesis =>
    intro node member
    rw [Tree.nodes, List.mem_cons, List.mem_append] at member
    rcases member with rfl | inside | after
    · exact found
    · cases inside
    · exact nextHypothesis node after

/-- A link to a block unfolds to the tree of the block, with a body or without. -/
theorem Unfolds.block_cases {link : Datum} {tree : Tree} {place : Nat} {stored : Block}
    (unfolds : Unfolds program link tree) (named : Program.index? link = some place)
    (found : program.blocks[place]? = some stored) :
    ∃ body next, tree = .block place stored body next ∧ Unfolds program stored.next next ∧
      (stored.EntersBody → Unfolds program stored.body body) ∧
      (¬ stored.EntersBody → body = .nothing) := by
  cases unfolds with
  | nowhere => cases named
  | entered _ _ _ body next again foundAgain enters inside after =>
    cases Option.some.inj (again.symm.trans named)
    cases Option.some.inj (foundAgain.symm.trans found)
    exact ⟨body, next, rfl, after, fun _ => inside, fun leaves => absurd enters leaves⟩
  | passed _ _ _ next again foundAgain leaves after =>
    cases Option.some.inj (again.symm.trans named)
    cases Option.some.inj (foundAgain.symm.trans found)
    exact ⟨.nothing, next, rfl, after, fun enters => absurd enters leaves, fun _ => rfl⟩

/-- A link unfolds to one tree at most. The stored blocks decide each step. -/
theorem Unfolds.unique {link : Datum} {first second : Tree} (one : Unfolds program link first)
    (other : Unfolds program link second) : first = second := by
  induction one generalizing second with
  | nowhere =>
    cases other with
    | nowhere => rfl
    | entered _ _ _ _ _ named => cases named
    | passed _ _ _ _ named => cases named
  | entered link place stored body next named found enters _ _ bodyHypothesis nextHypothesis =>
    obtain ⟨_, _, rfl, after, inside, _⟩ := other.block_cases named found
    rw [bodyHypothesis (inside enters), nextHypothesis after]
  | passed link place stored next named found leaves _ nextHypothesis =>
    obtain ⟨_, _, rfl, after, _, nothing⟩ := other.block_cases named found
    rw [nothing leaves, nextHypothesis after]

/-- Links and trees belong to each other both ways. -/
theorem exists_of_forall₂ {α β : Type} {relates : α → β → Prop} {items : List α} {others : List β}
    (all : List.Forall₂ relates items others) :
    (∀ item ∈ items, ∃ other ∈ others, relates item other) ∧
      ∀ other ∈ others, ∃ item ∈ items, relates item other := by
  induction all with
  | nil => exact ⟨nofun, nofun⟩
  | cons here _ inductionHypothesis =>
    obtain ⟨left, right⟩ := inductionHypothesis
    rw [List.forall_mem_cons, List.forall_mem_cons]
    refine ⟨⟨⟨_, List.mem_cons_self, here⟩, ?_⟩, ⟨_, List.mem_cons_self, here⟩, ?_⟩
    · intro item member
      obtain ⟨other, among, related⟩ := left item member
      exact ⟨other, List.mem_cons_of_mem _ among, related⟩
    · intro other member
      obtain ⟨item, among, related⟩ := right other member
      exact ⟨item, List.mem_cons_of_mem _ among, related⟩

end SpriteScript
