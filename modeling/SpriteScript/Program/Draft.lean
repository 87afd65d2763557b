import SpriteScript.Program.Dump

/-!
# Programs under edit

A draft is a program whose blocks are edited field by field, and an edit may put any datum into any
field. Names and links are data anyway. A datum in place of the family, or one in place of the
arguments that is no list, leaves the block unusable in part: the block keeps what it had before,
the draft remembers the damage, and whoever needs the damaged part meets an error.
-/

namespace SpriteScript

/-- What edits have damaged in a block: whether its family is lost, and the datum in place of its
arguments. -/
structure Damage where
  familyLost : Bool := false
  looseArgs : Option Datum := none

/-- A program under edit, with the damage by the places of the blocks. -/
structure Draft where
  program : Program := {}
  damages : List (Nat × Damage) := []

/-- The arguments that a datum lists as they stand: the items of a list or the characters of a
text. -/
def Argument.listed? : Datum → Option (List Argument)
  | .list items => some (items.map Argument.ofDatum)
  | .text value => some (value.map fun c => .text [c])
  | .mapping [] => some []
  | _ => none

/-- The datum of a block with damage. In place of the arguments a mapping stands for its keys. -/
def Block.dumpDamaged (block : Block) (damage : Damage) : Except Error Datum :=
  if damage.familyLost then .error .lacksOperation
  else
    match damage.looseArgs with
    | none => .ok block.dump
    | some args => do return { block with args := (← args.items).map Argument.ofDatum }.dump

namespace Draft

/-- The damage of the block at a place. -/
def damage (draft : Draft) (index : Nat) : Damage :=
  (draft.damages.lookup index).getD {}

/-- Notes the damage of the block at a place. -/
def mark (draft : Draft) (index : Nat) (damage : Damage) : Draft :=
  { draft with damages := (index, damage) :: draft.damages }

/-- Changes the block at a place. -/
def modifyBlock (draft : Draft) (index : Nat) (change : Block → Block) : Draft :=
  { draft with program := draft.program.modifyBlock index change }

/-- Puts a datum in place of the arguments of a block. -/
def setArgs (draft : Draft) (index : Nat) (value : Datum) : Draft :=
  match Argument.listed? value with
  | some args =>
    (draft.modifyBlock index fun block => { block with args }).mark index
      { draft.damage index with looseArgs := none }
  | none => draft.mark index { draft.damage index with looseArgs := some value }

/-- Puts a datum into a field of the block at a place. A block has no other fields to change. -/
def setField (draft : Draft) (index : Nat) (field : Text) (value : Datum) : Draft :=
  if field = "kind" then draft.mark index { draft.damage index with familyLost := true }
  else if field = "name" then draft.modifyBlock index fun block => { block with name := value }
  else if field = "args" then draft.setArgs index value
  else if field = "body" then draft.modifyBlock index fun block => { block with body := value }
  else if field = "next" then draft.modifyBlock index fun block => { block with next := value }
  else draft

/-- The place that an index names, which counts from the end if it is negative. -/
def place (draft : Draft) : Datum → Except Error Nat
  | .int index =>
    let size := draft.program.blocks.length
    let place := if index < 0 then index + size else index
    if 0 ≤ place ∧ place < size then .ok place.toNat else .error .outOfRange
  | .bool index =>
    let place := if index then 1 else 0
    if place < draft.program.blocks.length then .ok place else .error .outOfRange
  | _ => .error .wrongType

/-- The datum of the block that a link leads to. -/
def dumpBlock (draft : Draft) (link : Datum) : Except Error Datum := do
  let block ← draft.program.getBlock link
  block.dumpDamaged (((Program.index? link).map draft.damage).getD {})

/-- The data of all blocks. -/
def dumpBlocks (draft : Draft) : Except Error (List Datum) :=
  draft.program.blocks.zipIdx.mapM fun (block, index) => block.dumpDamaged (draft.damage index)

/-- The datum of a draft. -/
def dump (draft : Draft) : Except Error Datum := do
  return draft.program.dumpWith (← draft.dumpBlocks)

end Draft

end SpriteScript
