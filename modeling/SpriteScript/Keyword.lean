import SpriteScript.Program

/-!
# Keywords

Eight words begin a block. Three of them open a scope: what follows belongs to their body.
-/

namespace SpriteScript

/-- The words that begin a block. -/
inductive Keyword where
  | whenEvent
  | move
  | say
  | wait
  | repeatTimes
  | ifTrue
  | set
  | change
deriving DecidableEq

namespace Keyword

/-- All keywords. -/
def all : List Keyword :=
  [.whenEvent, .move, .say, .wait, .repeatTimes, .ifTrue, .set, .change]

/-- The word itself. -/
def word : Keyword → Text
  | .whenEvent => "when"
  | .move => "move"
  | .say => "say"
  | .wait => "wait"
  | .repeatTimes => "repeat"
  | .ifTrue => "if"
  | .set => "set"
  | .change => "change"

/-- The keyword that a token is. -/
def ofToken? (token : Text) : Option Keyword :=
  all.find? fun keyword => keyword.word == token

/-- The family of the block that a keyword begins. -/
def kind : Keyword → Kind
  | .whenEvent => .event
  | .move => .motion
  | .say => .looks
  | .wait => .control
  | .repeatTimes => .control
  | .ifTrue => .control
  | .set => .assignment
  | .change => .assignment

/-- The keyword opens a scope. -/
def isScope : Keyword → Bool
  | .whenEvent => true
  | .repeatTimes => true
  | .ifTrue => true
  | _ => false

/-- A keyword is found by its word. -/
theorem ofToken?_word (keyword : Keyword) : ofToken? keyword.word = some keyword := by
  cases keyword <;> rfl

/-- Only the word of a keyword is found. -/
theorem word_of_ofToken? {token : Text} {keyword : Keyword}
    (found : ofToken? token = some keyword) : token = keyword.word := by
  have matched := List.find?_some found
  exact (eq_of_beq matched).symm

/-- Keywords differ in their words. -/
theorem eq_of_word {keyword other : Keyword} (same : keyword.word = other.word) :
    keyword = other := by
  have found := ofToken?_word keyword
  rw [same, ofToken?_word other] at found
  exact (Option.some.inj found).symm

/-- The words that open a scope. -/
theorem word_of_isScope {keyword : Keyword} (scope : keyword.isScope = true) :
    keyword.word = "when" ∨ keyword.word = "repeat" ∨ keyword.word = "if" := by
  cases keyword with
  | whenEvent => exact .inl rfl
  | repeatTimes => exact .inr (.inl rfl)
  | ifTrue => exact .inr (.inr rfl)
  | _ => cases scope

end Keyword

end SpriteScript
