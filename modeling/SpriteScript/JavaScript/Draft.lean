import SpriteScript.JavaScript.Emission
import SpriteScript.Program.Draft

/-!
# Writing a program under edit

A draft is written like a program until a damaged part of a block is needed. A block without a
family is always in need of it. Arguments that are no list are only in the way where they are
looked at: a block that is not supported does not, and an event or an assignment first asks whether
there are any.
-/

namespace SpriteScript.JavaScript

open SpriteScript

/-- The error of taking the first of the arguments from a datum that is no list. A mapping lacks it
as a key, and anything else has no items. -/
def looseArgsError : Datum → Error
  | .mapping _ => .missingKey (.int 0)
  | _ => .wrongType

/-- What a block contributes whose arguments are no list. -/
def looseFragment (args : Datum) (scope : Scope) (block : Block) : Fragment :=
  let without := fragment scope { block with args := [] }
  let failed : Fragment := { failure := some (looseArgsError args) }
  match block.name with
  | .text name =>
    if block.kind = .operators ∧ name = expressionName then
      .ofExcept (do
        expressionFragment scope { block with args := (← args.items).map Argument.ofDatum })
    else
      match (Keyword.ofToken? name).bind (keywordFragment? scope block block.kind) with
      | none => without
      | some _ =>
        if args.isTruthy ∨ ¬ (block.kind = .event ∨ block.kind = .assignment) then failed
        else without
  | _ => without

/-- How the blocks of a draft are written. -/
def draftWriter (draft : Draft) : Writer := fun link scope block =>
  let damage := ((Program.index? link).map draft.damage).getD {}
  if damage.familyLost then { failure := some .lacksOperation }
  else
    match damage.looseArgs with
    | some args => looseFragment args scope block
    | none => fragment scope block

/-- Writes a draft. -/
def generateDraft (draft : Draft) : Emission :=
  emit (draftWriter draft) draft.program (agenda draft.program) {}

end SpriteScript.JavaScript
