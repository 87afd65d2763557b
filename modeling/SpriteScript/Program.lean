import SpriteScript.Error
import SpriteScript.Table

/-!
# Programs

A program is an arena of blocks, the roots of its scripts, and the variables and lists that it
declares. Blocks refer to each other by their place in the arena: `body` leads to the first
block inside a block and `next` to the block after it. A parsed program has only links that
lead somewhere; a loaded one may hold anything in their place, so links are data, and `null` is
the link that leads nowhere.
-/

namespace SpriteScript

/-- The family that a block belongs to. Blocks that set or change variables are assignments, and
names that are not known belong to `custom`. -/
inductive Kind where
  | event
  | motion
  | looks
  | control
  | assignment
  | operators
  | custom
deriving DecidableEq

namespace Kind

/-- All families. -/
def all : List Kind :=
  [.event, .motion, .looks, .control, .assignment, .operators, .custom]

/-- The name of a family. -/
def name : Kind → Text
  | .event => "event"
  | .motion => "motion"
  | .looks => "looks"
  | .control => "control"
  | .assignment => "variables"
  | .operators => "operators"
  | .custom => "custom"

/-- The family with a name; a name that is not known is custom. -/
def ofName (name : Text) : Kind :=
  (all.find? fun kind => kind.name == name).getD .custom

end Kind

/-- An argument of a block. An expression holds its parts unevaluated. Any other datum can only
come from a dump. -/
inductive Argument where
  | number (value : Float)
  | text (value : Text)
  | expression (parts : List Argument)
  | other (datum : Datum)

instance : Inhabited Argument := ⟨.other .null⟩

/-- An argument that is a datum taken as it stands. -/
def Argument.ofDatum : Datum → Argument
  | .float value => .number value
  | .text value => .text value
  | datum => .other datum

/-- A block of the arena. -/
structure Block where
  kind : Kind
  name : Datum
  args : List Argument := []
  body : Datum := .null
  next : Datum := .null

/-- The event that a block waits for: its first argument. Without arguments it is empty. -/
def Block.event (block : Block) : Argument :=
  block.args.head?.getD (.text "")

/-- The initial value of a variable or of an item of a list. A text value may hold any datum. -/
inductive Value where
  | number (value : Float)
  | text (content : Datum)

/-- A program. -/
structure Program where
  blocks : List Block := []
  scripts : List Datum := []
  variableTable : Table Value := .empty
  listTable : Table (List Value) := .empty

instance : Inhabited Program := ⟨{}⟩

namespace Program

/-- The place in the arena that a link names. Truth values name the places one and zero. -/
def index? : Datum → Option Nat
  | .int (.ofNat index) => some index
  | .bool value => some (if value then 1 else 0)
  | _ => none

/-- The block that a link leads to. -/
def block? (program : Program) (link : Datum) : Option Block :=
  (index? link).bind fun index => program.blocks[index]?

/-- The block that a link leads to, or the error that there is none. The report shows the link. -/
def getBlock (program : Program) (link : Datum) : Except Error Block :=
  match program.block? link with
  | some block => .ok block
  | none => .error (.showing link (.unknownBlock link))

/-- The place that the next block added will have. -/
def nextIndex (program : Program) : Nat :=
  program.blocks.length

/-- Adds a block at the end of the arena. -/
def addBlock (program : Program) (block : Block) : Program :=
  { program with blocks := program.blocks ++ [block] }

/-- Changes the block at a place, if there is one. -/
def modifyBlock (program : Program) (index : Nat) (change : Block → Block) : Program :=
  { program with blocks := program.blocks.modify index change }

/-- Declares a variable. -/
def declareVariable (program : Program) (name : Text) (value : Value) : Program :=
  { program with variableTable := program.variableTable.insert name value }

/-- Declares a list. -/
def declareList (program : Program) (name : Text) (values : List Value) : Program :=
  { program with listTable := program.listTable.insert name values }

end Program

end SpriteScript
