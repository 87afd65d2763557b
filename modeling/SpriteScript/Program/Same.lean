import SpriteScript.Program

/-!
# Sameness of programs

Two programs are the same when they have the same blocks, the same scripts, and the same
declarations in the same order. Numbers are compared by value, so an undefined number makes its
program differ from every program.
-/

namespace SpriteScript

/-- The datum that an argument which is no expression stands for. -/
def Argument.plain? : Argument → Option Datum
  | .number value => some (.float value)
  | .text value => some (.text value)
  | .other datum => some datum
  | .expression _ => none

mutual

/-- The same argument. -/
def Argument.same : Argument → Argument → Bool
  | .expression left, .expression right => Argument.sameAll left right
  | left, right =>
    match left.plain?, right.plain? with
    | some leftDatum, some rightDatum => leftDatum.same rightDatum
    | _, _ => false

/-- The same arguments in the same order. -/
def Argument.sameAll : List Argument → List Argument → Bool
  | [], [] => true
  | left :: lefts, right :: rights => left.same right && Argument.sameAll lefts rights
  | _, _ => false

end

/-- The same block: family, name, arguments and links. -/
def Block.same (left right : Block) : Bool :=
  decide (left.kind = right.kind) && left.name.same right.name &&
    Argument.sameAll left.args right.args && left.body.same right.body && left.next.same right.next

/-- The same value: a number is never a text. -/
def Value.same : Value → Value → Bool
  | .number left, .number right => (Datum.float left).same (.float right)
  | .text left, .text right => left.same right
  | _, _ => false

/-- Two lists agree item by item. -/
def sameLists {α : Type} (same : α → α → Bool) : List α → List α → Bool
  | [], [] => true
  | left :: lefts, right :: rights => same left right && sameLists same lefts rights
  | _, _ => false

/-- Two tables agree in names, values and order. -/
def Table.same {α : Type} (sameValue : α → α → Bool) (left right : Table α) : Bool :=
  sameLists (fun (name, value) (other, otherValue) => name == other && sameValue value otherValue)
    left.entries right.entries

/-- The same program. -/
def Program.same (left right : Program) : Bool :=
  sameLists Block.same left.blocks right.blocks &&
    sameLists Datum.same left.scripts right.scripts &&
    left.variableTable.same Value.same right.variableTable &&
    left.listTable.same (sameLists Value.same) right.listTable

end SpriteScript
