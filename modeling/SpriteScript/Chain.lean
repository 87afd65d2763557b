import SpriteScript.Keyword

/-!
# Chains of blocks

Parsing yields chains: a block with its arguments, the chain inside it, and the chain after it.
A chain is then laid out in the arena so that every block comes before its body and its body
before whatever follows the block. The places are thus those of a walk in preorder, and every
link leads forward.
-/

namespace SpriteScript

/-- A chain of blocks, empty or a first block with its body and what comes next. -/
inductive Chain where
  | done
  | block (keyword : Keyword) (args : List Argument) (body next : Chain)

namespace Chain

/-- The number of blocks in a chain, those in bodies included. -/
def size : Chain → Nat
  | .done => 0
  | .block _ _ body next => 1 + body.size + next.size

/-- The link to a chain whose first block has place `index`. -/
def link (index : Nat) : Chain → Datum
  | .done => .null
  | .block .. => .int index

/-- The blocks of a chain in preorder, the first of them at place `index`. -/
def layout (index : Nat) : Chain → List Block
  | .done => []
  | .block keyword args body next =>
    { kind := keyword.kind
      name := .text keyword.word
      args := args
      body := body.link (index + 1)
      next := next.link (index + 1 + body.size) } ::
      (body.layout (index + 1) ++ next.layout (index + 1 + body.size))

/-- A chain takes as many places as it has blocks. -/
theorem length_layout (chain : Chain) (index : Nat) :
    (chain.layout index).length = chain.size := by
  induction chain generalizing index with
  | done => rfl
  | block keyword args body next bodyHypothesis nextHypothesis =>
    simp only [layout, size, List.length_cons, List.length_append, bodyHypothesis,
      nextHypothesis]
    omega

end Chain

/-- Adds the blocks of a chain to the arena. -/
def Program.addChain (program : Program) (chain : Chain) : Program :=
  { program with blocks := program.blocks ++ chain.layout program.nextIndex }

end SpriteScript
