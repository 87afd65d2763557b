import SpriteScript.JavaScript.Fragment
import SpriteScript.Program.Walk

/-!
# Writing a program

What is still to be written is kept as an agenda. A task on it is a line to write or a link to
follow; following a link puts the lines of the block, its body and what comes next in front of
the agenda. So a block is written before its body, its body before the lines that close it, and
all of that before the block after it. A block is written at most once, since a link to a block
that was reached before is an error. The first error ends the writing and leaves what was written
before it.
-/

namespace SpriteScript.JavaScript

open SpriteScript

/-- A task on the agenda: a line, if its text could be formed, or a link and where to write what
it leads to. -/
inductive Task where
  | write (line : Except Error Text)
  | follow (scope : Scope) (link : Datum)

/-- What was written: the lines, the warnings, what was reached, and the error that ended it. -/
structure Emission where
  lines : List Text := []
  warnings : List Warning := []
  visited : Visited := []
  failure : Option Error := none

/-- The tasks that a block brings: its own lines around its body, if that is written. -/
def Fragment.tasks (fragment : Fragment) (body : Datum) : List Task :=
  fragment.opening.map (fun line => .write (.ok line)) ++
    (fragment.body.toList.map fun scope => .follow scope body) ++
    fragment.closing.map fun line => .write (.ok line)

/-- How the block that a link leads to is written. -/
abbrev Writer := Datum → Scope → Block → Fragment

/-- Works off an agenda. -/
def emit (writer : Writer) (program : Program) (agenda : List Task) (emission : Emission) :
    Emission :=
  match agenda with
  | [] => emission
  | .write (.ok line) :: rest =>
    emit writer program rest { emission with lines := emission.lines ++ [line] }
  | .write (.error error) :: _ => { emission with failure := some error }
  | .follow scope link :: rest =>
    match _arrived : program.step emission.visited link with
    | .finished => emit writer program rest emission
    | .stopped error visited => { emission with visited, failure := some error }
    | .arrived block visited =>
      let fragment := writer link scope block
      let reached :=
        { emission with visited, warnings := emission.warnings ++ fragment.warnings }
      match fragment.failure with
      | some error => { reached with failure := some error }
      | none =>
        emit writer program (fragment.tasks block.body ++ .follow scope block.next :: rest) reached
termination_by (program.unvisited emission.visited, agenda.length)
decreasing_by
  · exact Prod.Lex.right _ (Nat.lt_succ_self _)
  · exact Prod.Lex.right _ (Nat.lt_succ_self _)
  · exact Prod.Lex.left _ _ (Program.unvisited_lt_of_arrived _arrived)

/-- The declaration of a variable. -/
def variableLine (name : Text) (value : Value) : Except Error Text := do
  return "let " ++ name ++ " = " ++ (← valueCode value) ++ ";\n"

/-- The declaration of a list. -/
def listLine (name : Text) (values : List Value) : Except Error Text := do
  return "let " ++ name ++ " = [" ++ Text.joined ", " (← values.mapM valueCode) ++ "];\n"

/-- The agenda of a whole program: its variables, its lists and its scripts. -/
def agenda (program : Program) : List Task :=
  [.write (.ok "// Variables\n")] ++
    program.variableTable.entries.map (fun (name, value) => .write (variableLine name value)) ++
    [.write (.ok "\n"), .write (.ok "// Lists\n")] ++
    program.listTable.entries.map (fun (name, values) => .write (listLine name values)) ++
    [.write (.ok "\n"), .write (.ok "// Scripts\n")] ++
    program.scripts.map (fun root => .follow {} root)

/-- Writes a program. -/
def generate (program : Program) : Emission :=
  emit (fun _ => fragment) program (agenda program) {}

/-- The lines that were written as one text. -/
def Emission.text (emission : Emission) : Text :=
  emission.lines.flatten

/-- The generated code, or the error that prevented it. -/
def Emission.code (emission : Emission) : Except Error Text :=
  match emission.failure with
  | some error => .error error
  | none => .ok (preamble ++ emission.text)

end SpriteScript.JavaScript
