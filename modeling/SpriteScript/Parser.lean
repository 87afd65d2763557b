import SpriteScript.Grammar

/-!
# Parsers

A parser stands in a list of tokens and builds a program. Each of its operations reads one kind
of thing from where it stands, adds what it read to the program and moves on. The whole of a
source is read by `parse`, but every operation may be used at any place.
-/

namespace SpriteScript

/-- A parser: its place, the number of braced bodies that it is inside, the program built so far
and the warnings so far.

The depth is the one between operations, and there it is constant: the operation that enters a
braced body also leaves it, and hands the deeper count on to the reading of the body. -/
structure Parser where
  cursor : Cursor Text
  braceDepth : Nat := 0
  program : Program := {}
  warnings : List Warning := []

/-- Adds an item to a program. -/
def Program.addItem (program : Program) : Grammar.Item → Program
  | .script chain =>
    { program.addChain chain with
      scripts := program.scripts ++ [chain.link program.nextIndex] }
  | .declareVariable name value => program.declareVariable name value
  | .declareList name values => program.declareList name values

namespace Parser

/-- A parser at the start of a token list. -/
def ofTokens (tokens : List Text) : Parser :=
  { cursor := { rest := tokens } }

/-- The text of a token, which must be a text that is not empty. -/
def checkToken : Datum → Except Error Text
  | .text token => if token.isEmpty then .error (.invalidToken (.text token) rfl) else .ok token
  | other => .error (.showing other (.invalidToken other))

/-- A parser for a token list, in which no token may be empty. -/
def create (tokens : List Text) : Except Error Parser := do
  return ofTokens (← tokens.mapM fun token => checkToken (.text token))

/-- A parser can be created for any tokens that are not empty. -/
theorem create_of_ne_nil {tokens : List Text} (nonempty : ∀ token ∈ tokens, token ≠ []) :
    create tokens = .ok (ofTokens tokens) := by
  have checked : tokens.mapM (fun token => checkToken (.text token)) = .ok tokens := by
    induction tokens with
    | nil => rfl
    | cons token rest inductionHypothesis =>
      have accepted : checkToken (.text token) = .ok token := by
        simp [checkToken, nonempty token List.mem_cons_self]
      have later := inductionHypothesis fun other member =>
        nonempty other (List.mem_cons_of_mem token member)
      rw [List.mapM_cons, accepted, later]
      rfl
  unfold create
  rw [checked]
  rfl

/-- A parser for the tokens that a datum lists: the items of a list or the characters of a text.
The keys of a mapping are checked like tokens, but none of them has a place. -/
def ofDatum : Datum → Except Error Parser
  | .list items => do return ofTokens (← items.mapM checkToken)
  | .text value => create (value.map ([·]))
  | .mapping entries => do
    let parser ← create (entries.map Prod.fst)
    if entries.isEmpty then return parser else throw (.missingKey (.int 0))
  | _ => .error .wrongType

/-- Moves to where a reading stopped and reports its warnings. -/
def accept {α : Type} {start : Cursor Text} (parser : Parser)
    (reading : Grammar.Reading α start) : Parser :=
  { parser with
    cursor := reading.cursor
    warnings := parser.warnings ++ reading.warnings }

/-- Moves over one token. -/
def advance (parser : Parser) : Parser :=
  { parser with cursor := parser.cursor.advance }

/-- Adds a chain to the program and gives the link to it. -/
def addChain (parser : Parser) (chain : Chain) : Datum × Parser :=
  (chain.link parser.program.nextIndex,
    { parser with program := parser.program.addChain chain })

/-- Reads a chain. -/
def chain (parser : Parser) (event : Bool) : Datum × Parser :=
  let reading := Grammar.chain parser.braceDepth event parser.cursor
  (parser.accept reading).addChain reading.value

/-- Reads a script without adding it to the scripts of the program. -/
def script (parser : Parser) : Datum × Parser :=
  parser.chain true

/-- Reads a single block with its body. -/
def block (parser : Parser) (event : Bool) : Datum × Parser :=
  match Grammar.keyword? parser.cursor with
  | none => (.null, parser)
  | some keyword =>
    if keyword = .whenEvent ∧ event = false then (.null, parser)
    else
      let reading := Grammar.block parser.braceDepth keyword parser.cursor.advance
      (parser.accept reading).addChain (.block keyword reading.value.1 reading.value.2 .done)

/-- Reads the body of the block `name` after stepping over the opening brace. -/
def bracedBody (parser : Parser) (name : Datum) : Datum × Parser :=
  let reading :=
    Grammar.closing name (Grammar.chain (parser.braceDepth + 1) false parser.cursor.advance)
  (parser.accept reading).addChain reading.value

/-- Reads arguments. -/
def arguments (parser : Parser) (scope : Bool) : List Argument × Parser :=
  let reading := Grammar.arguments parser.braceDepth scope parser.cursor
  (reading.value, parser.accept reading)

/-- Reads an expression after stepping over the opening parenthesis. -/
def expression (parser : Parser) : Argument × Parser :=
  let reading := Grammar.expression parser.cursor.advance
  (.expression reading.value, parser.accept reading)

/-- Adds the item that was read, if there was one. -/
def addItem {start : Cursor Text} (parser : Parser)
    (reading : Grammar.Reading (Option Grammar.Item) start) : Parser :=
  { parser.accept reading with
    program := reading.value.toList.foldl Program.addItem parser.program }

/-- Reads a variable declaration after stepping over its keyword. -/
def variableDeclaration (parser : Parser) : Parser :=
  parser.addItem (Grammar.variableDeclaration parser.cursor.advance)

/-- Reads a list declaration after stepping over its keyword. -/
def listDeclaration (parser : Parser) : Parser :=
  parser.addItem (Grammar.listDeclaration parser.cursor.advance)

/-- Reads all that is left and adds every item to the program. -/
def parse (parser : Parser) : Parser :=
  let reading := Grammar.items parser.braceDepth parser.cursor
  { parser.accept reading with
    program := reading.value.foldl Program.addItem parser.program }

end Parser

/-- The program that a token list describes. -/
def parse (tokens : List Text) : Program :=
  (Parser.ofTokens tokens).parse.program

end SpriteScript
