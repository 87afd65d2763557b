import SpriteScript.Decimal.Numeral
import SpriteScript.Program

/-!
# Dumping and loading programs

A program is dumped as data and loaded from it. Dumping loses nothing. Loading takes whatever it
can: fields that are missing count as empty, a family that is not known is custom, integers
become doubles, a text can stand for the list of its characters and a mapping for the list of
its keys. What it cannot take is an error, and the first one in reading order stops it.
-/

namespace SpriteScript

/-- The items that a datum consists of: those of a list, the characters of a text, the keys of a
mapping. -/
def Datum.items : Datum → Except Error (List Datum)
  | .list items => .ok items
  | .text value => .ok (value.map fun c => .text ([c]))
  | .mapping entries => .ok (entries.map fun (key, _) => .text key)
  | _ => .error .wrongType

/-- The entries of a mapping. -/
def Datum.entries : Datum → Except Error (List (Text × Datum))
  | .mapping entries => .ok entries
  | _ => .error .lacksOperation

/-- The item at a place. A mapping has no places, so it lacks every one of them. -/
def Datum.at (datum : Datum) (index : Nat) : Except Error Datum :=
  match datum with
  | .list items => items[index]?.elim (.error .outOfRange) .ok
  | .text value =>
    value[index]?.elim (.error .outOfRange) fun c => .ok (.text ([c]))
  | .mapping _ => .error (.missingKey (.int index))
  | _ => .error .wrongType

/-- The number that a datum gives. -/
def Datum.toNumber : Datum → Except Error Float
  | .bool value => .ok (if value then 1.0 else 0.0)
  | .int value => (Decimal.ofInt? value).elim (.error .tooLarge) .ok
  | .float value => .ok value
  | .text value => (Decimal.read? value).elim (.error .badValue) .ok
  | _ => .error .wrongType

/-- The datum of a value: its tag and its content. -/
def Value.dump : Value → Datum
  | .number value => .list [.text "number", .float value]
  | .text content => .list [.text "text", content]

/-- The value of a datum: a number under the tag for numbers, a text under any other. -/
def Value.load (datum : Datum) : Except Error Value := do
  let tag ← datum.at 0
  let content ← datum.at 1
  if tag.same (.text "number") then return .number (← content.toNumber)
  else return .text content

mutual

/-- The datum of an argument. -/
def Argument.dump : Argument → Datum
  | .number value => .float value
  | .text value => .text value
  | .expression parts => .mapping [("expression", .list (Argument.dumpAll parts))]
  | .other datum => datum

/-- The data of arguments. -/
def Argument.dumpAll : List Argument → List Datum
  | [] => []
  | argument :: rest => argument.dump :: Argument.dumpAll rest

end

mutual

/-- The argument of a datum. A mapping is an expression, and integers become doubles. -/
def Argument.load : Datum → Except Error Argument
  | .mapping entries => do return .expression (← Argument.loadExpression entries)
  | .bool value => .ok (.number (if value then 1.0 else 0.0))
  | .int value => (Decimal.ofInt? value).elim (.error .tooLarge) fun number => .ok (.number number)
  | .float value => .ok (.number value)
  | .text value => .ok (.text value)
  | datum => .ok (.other datum)

/-- The parts of an expression, which a mapping holds under one key. -/
def Argument.loadExpression : List (Text × Datum) → Except Error (List Argument)
  | [] => .error (.missingKey (.text "expression"))
  | (key, value) :: rest =>
    if key == "expression" then Argument.loadParts value else Argument.loadExpression rest

/-- The arguments that the items of a datum give. -/
def Argument.loadParts : Datum → Except Error (List Argument)
  | .list items => Argument.loadAll items
  | .text value => .ok (value.map fun c => .text ([c]))
  | .mapping entries => .ok (entries.map fun (key, _) => .text key)
  | _ => .error .wrongType

/-- The argument of each datum. -/
def Argument.loadAll : List Datum → Except Error (List Argument)
  | [] => .ok []
  | datum :: rest => do
    let argument ← Argument.load datum
    let arguments ← Argument.loadAll rest
    return argument :: arguments

end

/-- The datum of a block. -/
def Block.dump (block : Block) : Datum :=
  .mapping [("kind", .text block.kind.name), ("name", block.name),
    ("args", .list (Argument.dumpAll block.args)), ("body", block.body), ("next", block.next)]

/-- The family that a datum names. A list or a mapping cannot be looked up. -/
def Kind.load : Datum → Except Error Kind
  | .text name => .ok (Kind.ofName name)
  | .list _ => .error .wrongType
  | .mapping _ => .error .wrongType
  | _ => .ok .custom

/-- The value under a key that must be there. -/
def requireKey (entries : List (Text × Datum)) (key : Text) : Except Error Datum :=
  (Datum.get? entries key).elim (.error (.missingKey (.text key))) .ok

/-- The block of a datum. -/
def Block.load : Datum → Except Error Block
  | .mapping entries => do
    let kind ← Kind.load (← requireKey entries "kind")
    let name ← requireKey entries "name"
    let args ← Argument.loadParts ((Datum.get? entries "args").getD (.list []))
    return { kind, name, args
             body := (Datum.get? entries "body").getD .null
             next := (Datum.get? entries "next").getD .null }
  | _ => .error .wrongType

/-- The datum of a program whose blocks have these data. -/
def Program.dumpWith (program : Program) (blocks : List Datum) : Datum :=
  .mapping [
    ("blocks", .list blocks),
    ("scripts", .list program.scripts),
    ("variables", .mapping (program.variableTable.entries.map fun (name, value) =>
      (name, value.dump))),
    ("lists", .mapping (program.listTable.entries.map fun (name, values) =>
      (name, .list (values.map Value.dump))))]

/-- The datum of a program. -/
def Program.dump (program : Program) : Datum :=
  program.dumpWith (program.blocks.map Block.dump)

/-- The values of a list. -/
def Value.loadAll (datum : Datum) : Except Error (List Value) := do
  (← datum.items).mapM Value.load

/-- The program of a datum. -/
def Program.load : Datum → Except Error Program
  | .mapping entries => do
    let blocks ← (← ((Datum.get? entries "blocks").getD (.list [])).items).mapM Block.load
    let scripts ← ((Datum.get? entries "scripts").getD (.list [])).items
    let scalars ← (← ((Datum.get? entries "variables").getD (.mapping [])).entries).mapM
      fun (name, value) => do return (name, ← Value.load value)
    let lists ← (← ((Datum.get? entries "lists").getD (.mapping [])).entries).mapM
      fun (name, values) => do return (name, ← Value.loadAll values)
    return { blocks, scripts
             variableTable := Table.empty.insertAll scalars
             listTable := Table.empty.insertAll lists }
  | _ => .error .lacksOperation

end SpriteScript
