import SpriteScript.JavaScript.Literal
import SpriteScript.JavaScript.Preamble
import SpriteScript.Keyword
import SpriteScript.Text.LowerCase
import SpriteScript.Text.Basic
import SpriteScript.Warning

/-!
# The code of a single block

A block contributes lines before its body and lines after it, and says whether its body is
written at all and how deep it then stands. Events that are not known and blocks that are not
supported leave a comment instead, and their bodies are not written. The comment and its warning
show the event or the name of the block, so neither is left if that cannot be written.
-/

namespace SpriteScript.JavaScript

open SpriteScript

/-- Where a block is written: how far it is indented, and how many loops are around it. -/
structure Scope where
  indent : Nat := 0
  loops : Nat := 0

/-- What a block contributes. If writing it failed, no line of it is written. -/
structure Fragment where
  opening : List Text := []
  body : Option Scope := none
  closing : List Text := []
  warnings : List Warning := []
  failure : Option Error := none

/-- Code at a depth of indentation. -/
def indented (indent : Nat) (code : Text) : Text :=
  List.replicate (4 * indent) (' ' : CodePoint) ++ code

/-- A fragment of one line. -/
def Fragment.line (scope : Scope) (code : Text) (warnings : List Warning) : Fragment :=
  { opening := [indented scope.indent (code ++ "\n")], warnings }

/-- A fragment that could not be written. -/
def Fragment.ofExcept : Except Error Fragment → Fragment
  | .ok fragment => fragment
  | .error error => { failure := some error }

/-- The code of an argument by its place. A missing one is `undefined`, with a warning. -/
def argumentAt (block : Block) (index : Nat) : Except Error (Text × List Warning) :=
  match block.args[index]? with
  | some argument => do return (← argumentCode argument, [])
  | none =>
    .ok ("undefined",
      [⟨.missingArgument,
        block.name.display ++ " argument " ++ Decimal.intText (index + 1)⟩])

/-- The word that marks an event as a key press. -/
def keyWord : Text := "keyPressed"

/-- The key of an event: what is left of it without the word for a key press, or else the
argument after it. -/
def keyOf (event : Text) (args : List Argument) : Except Error Text :=
  match Text.removeAll keyWord event, args with
  | [], _ :: key :: _ => nameCode key
  | key, _ => .ok key

/-- A handler that runs when the program starts. -/
def startHandler (scope : Scope) : Fragment where
  opening := [
    indented scope.indent "// When green flag clicked\n",
    indented scope.indent "document.addEventListener('DOMContentLoaded', async function() \x7b\n"]
  body := some { scope with indent := scope.indent + 1 }
  closing := [indented scope.indent "\x7d);\n\n"]

/-- A handler that runs when a key is pressed. -/
def keyHandler (scope : Scope) (key : Text) : Fragment where
  opening := [
    indented scope.indent ("// When " ++ key ++ " key pressed\n"),
    indented scope.indent "document.addEventListener('keydown', async function(event) \x7b\n",
    indented (scope.indent + 1)
      ("if (event.key.toLowerCase() === " ++ Json.writtenText false (Text.lower key) ++ ") \x7b\n")]
  body := some { scope with indent := scope.indent + 2 }
  closing := [indented (scope.indent + 1) "\x7d\n", indented scope.indent "\x7d);\n\n"]

/-- A comment in place of a handler for an event that is not known. -/
def unsupportedEvent (scope : Scope) (event : Argument) : Fragment :=
  if event.isWritable then
    let warnings : List Warning := [⟨.unsupportedEvent, event.display⟩]
    match argumentCode event with
    | .ok code => .line scope ("// Unsupported event: " ++ code) warnings
    | .error error => { warnings, failure := some error }
  else { failure := some .badValue }

/-- A script's first block. -/
def eventFragment (scope : Scope) (block : Block) : Fragment :=
  match block.event with
  | .text event =>
    if event = "flagClicked" then startHandler scope
    else if Text.occursIn keyWord event then
      .ofExcept (do return keyHandler scope (← keyOf event block.args))
    else unsupportedEvent scope (.text event)
  | event => unsupportedEvent scope event

/-- Moves the sprite. -/
def moveFragment (scope : Scope) (block : Block) : Except Error Fragment := do
  let (steps, warnings) ← argumentAt block 0
  return .line scope (sprite ++ ".move(" ++ steps ++ ");") warnings

/-- Lets the sprite speak, for some time if there is a second argument. -/
def sayFragment (scope : Scope) (block : Block) : Except Error Fragment := do
  let (message, warnings) ← argumentAt block 0
  match block.args[1]? with
  | some seconds =>
    return .line scope (sprite ++ ".say(" ++ message ++ ", " ++ (← argumentCode seconds) ++ ");")
      warnings
  | none => return .line scope (sprite ++ ".say(" ++ message ++ ");") warnings

/-- Suspends the handler. -/
def waitFragment (scope : Scope) (block : Block) : Except Error Fragment := do
  let (seconds, warnings) ← argumentAt block 0
  return .line scope
    ("await new Promise(resolve => setTimeout(resolve, " ++ seconds ++ " * 1000));") warnings

/-- A loop with the code of its count. Its counter is numbered by the loops around it, so loops
inside each other never share one. It begins with an underscore and words of the source do not, so
only an assignment to a quoted name can be one to the counter. -/
def countedLoop (scope : Scope) (count : Text) (warnings : List Warning) : Fragment :=
  let counter : Text := "_i" ++ Decimal.intText scope.loops
  { opening := [indented scope.indent
      ("for (let " ++ counter ++ " = 0; " ++ counter ++ " < " ++ count ++ "; " ++ counter ++
        "++) \x7b\n")]
    body := some { indent := scope.indent + 1, loops := scope.loops + 1 }
    closing := [indented scope.indent "\x7d\n"]
    warnings }

/-- A conditional with the code of its condition. -/
def conditional (scope : Scope) (condition : Text) (warnings : List Warning) : Fragment where
  opening := [indented scope.indent ("if (" ++ condition ++ ") \x7b\n")]
  body := some { scope with indent := scope.indent + 1 }
  closing := [indented scope.indent "\x7d\n"]
  warnings

/-- Repeats its body. -/
def repeatFragment (scope : Scope) (block : Block) : Except Error Fragment := do
  let (count, warnings) ← argumentAt block 0
  return countedLoop scope count warnings

/-- Runs its body if a condition holds. -/
def ifFragment (scope : Scope) (block : Block) : Except Error Fragment := do
  let (condition, warnings) ← argumentAt block 0
  return conditional scope condition warnings

/-- An assignment by `operator` to the variable that the first argument names. -/
def assignFragment (operator : Text) (scope : Scope) (block : Block) : Except Error Fragment :=
  match block.args with
  | [] =>
    .ok (.line scope ("// " ++ block.name.shown ++ ": missing variable name")
      [⟨.missingArgument, block.name.display ++ " needs a variable name"⟩])
  | target :: _ => do
    let name ← nameCode target
    let (value, warnings) ← argumentAt block 1
    return .line scope (name ++ " " ++ operator ++ " " ++ value ++ ";") warnings

/-- An expression on its own. -/
def expressionFragment (scope : Scope) (block : Block) : Except Error Fragment := do
  let code ← argumentCode (.expression block.args)
  return .line scope (code ++ ";") []

/-- A comment in place of a block that is not supported. -/
def unsupportedBlock (scope : Scope) (block : Block) : Fragment :=
  if block.name.isWritable then
    .line scope ("// Unsupported block: " ++ block.name.shown)
      [⟨.unsupportedBlock, block.kind.name ++ " " ++ block.name.display⟩]
  else { failure := some .badValue }

/-- What a block with a keyword for its name contributes, if the keyword belongs to its family. -/
def keywordFragment? (scope : Scope) (block : Block) : Kind → Keyword → Option Fragment
  | .event, .whenEvent => some (eventFragment scope block)
  | .motion, .move => some (.ofExcept (moveFragment scope block))
  | .looks, .say => some (.ofExcept (sayFragment scope block))
  | .control, .wait => some (.ofExcept (waitFragment scope block))
  | .control, .repeatTimes => some (.ofExcept (repeatFragment scope block))
  | .control, .ifTrue => some (.ofExcept (ifFragment scope block))
  | .assignment, .set => some (.ofExcept (assignFragment "=" scope block))
  | .assignment, .change => some (.ofExcept (assignFragment "+=" scope block))
  | _, _ => none

/-- The name of a block that is an expression on its own. -/
def expressionName : Text := "expression"

/-- What a block contributes. A block is supported if its name belongs to its family. -/
def fragment (scope : Scope) (block : Block) : Fragment :=
  match block.name with
  | .text name =>
    if block.kind = .operators ∧ name = expressionName then
      .ofExcept (expressionFragment scope block)
    else
      ((Keyword.ofToken? name).bind (keywordFragment? scope block block.kind)).getD
        (unsupportedBlock scope block)
  | _ => unsupportedBlock scope block

end SpriteScript.JavaScript
