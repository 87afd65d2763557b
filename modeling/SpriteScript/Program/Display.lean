import SpriteScript.Program

/-!
# Programs in messages

Blocks, values and programs are shown as a constructor with its arguments. A program shows its
scripts and declarations and leaves the arena out. Like data, they can be shown only if no
integer in what is shown is too long.
-/

namespace SpriteScript

mutual

/-- No integer in the argument is too long to be written. -/
def Argument.isWritable : Argument → Bool
  | .expression parts => Argument.allWritable parts
  | .other datum => datum.isWritable
  | _ => true

/-- Each argument can be written. -/
def Argument.allWritable : List Argument → Bool
  | [] => true
  | argument :: rest => argument.isWritable && Argument.allWritable rest

end

mutual

/-- An argument; an expression is shown as the block that it forms. -/
def Argument.display : Argument → Text
  | .number value => Decimal.text value
  | .text value => Text.quoted value
  | .expression parts =>
    "BlockNode(operators, 'expression', [" ++ Text.joined ", " (Argument.displayAll parts) ++
      "], body=None, next=None)"
  | .other datum => datum.display

/-- Each argument. -/
def Argument.displayAll : List Argument → List Text
  | [] => []
  | argument :: rest => argument.display :: Argument.displayAll rest

end

/-- A block. -/
def Block.display (block : Block) : Text :=
  "BlockNode(" ++ block.kind.name ++ ", " ++ block.name.display ++ ", [" ++
    Text.joined ", " (Argument.displayAll block.args) ++ "], body=" ++ block.body.display ++
    ", next=" ++ block.next.display ++ ")"

/-- A value. -/
def Value.display : Value → Text
  | .number value => "NumberValue(" ++ Decimal.text value ++ ")"
  | .text content => "TextValue(" ++ content.display ++ ")"

/-- A script. -/
def scriptDisplay (root : Datum) : Text :=
  "Script(" ++ root.display ++ ")"

/-- The scripts of a program. -/
def Program.displayScripts (program : Program) : Text :=
  "[" ++ Text.joined ", " (program.scripts.map scriptDisplay) ++ "]"

/-- A program without its blocks. -/
def Program.display (program : Program) : Text :=
  let scalars : List Text := program.variableTable.entries.map fun (name, value) =>
    Text.quoted name ++ ": " ++ value.display
  let lists : List Text := program.listTable.entries.map fun (name, values) =>
    Text.quoted name ++ ": [" ++ Text.joined ", " (values.map Value.display) ++ "]"
  "Program(scripts=" ++ program.displayScripts ++ ", variables=\x7b" ++
    Text.joined ", " scalars ++ "\x7d, lists=\x7b" ++ Text.joined ", " lists ++ "\x7d)"

/-- The block can be shown. -/
def Block.isWritable (block : Block) : Bool :=
  block.name.isWritable && Argument.allWritable block.args && block.body.isWritable &&
    block.next.isWritable

/-- The value can be shown. -/
def Value.isWritable : Value → Bool
  | .number _ => true
  | .text content => content.isWritable

/-- The program can be shown. What is only in the arena does not matter. -/
def Program.isWritable (program : Program) : Bool :=
  Datum.itemsWritable program.scripts &&
    program.variableTable.entries.all (fun entry => entry.2.isWritable) &&
    program.listTable.entries.all fun entry => entry.2.all Value.isWritable

end SpriteScript
