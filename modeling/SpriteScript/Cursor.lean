/-!
# Cursors

A cursor stands in a sequence: it knows what is still ahead and how often it was moved. Moving
it at the end of the sequence is allowed and counted.
-/

namespace SpriteScript

/-- A place in a sequence: the items ahead, and the number of moves made. -/
structure Cursor (α : Type) where
  rest : List α
  position : Nat := 0

namespace Cursor

variable {α : Type}

/-- The item that the cursor stands on. -/
def current? (cursor : Cursor α) : Option α :=
  cursor.rest.head?

/-- The item after the one that the cursor stands on. -/
def following? (cursor : Cursor α) : Option α :=
  cursor.rest.tail.head?

/-- Moves by one. -/
def advance (cursor : Cursor α) : Cursor α :=
  ⟨cursor.rest.tail, cursor.position + 1⟩

/-- Moves by `count`. -/
def skip (cursor : Cursor α) (count : Nat) : Cursor α :=
  ⟨cursor.rest.drop count, cursor.position + count⟩

/-- Moves to where only `rest` is ahead, which must be an end of what is ahead now. -/
def moveTo (cursor : Cursor α) (rest : List α) : Cursor α :=
  ⟨rest, cursor.position + (cursor.rest.length - rest.length)⟩

/-- The cursor stands on the first item ahead. -/
theorem current?_of_rest {cursor : Cursor α} {item : α} {items : List α}
    (ahead : cursor.rest = item :: items) : cursor.current? = some item := by
  rw [current?, ahead, List.head?_cons]

/-- Moving leaves the items after the first. -/
theorem rest_advance {cursor : Cursor α} {item : α} {items : List α}
    (ahead : cursor.rest = item :: items) : cursor.advance.rest = items := by
  rw [advance, ahead, List.tail_cons]

/-- Skipping items leaves no more of them ahead, also beyond the end. -/
theorem length_rest_skip_le (cursor : Cursor α) (count : Nat) :
    (cursor.skip count).rest.length ≤ cursor.rest.length := by
  simp [skip]

/-- Stepping forward leaves no more items ahead, and beyond the end as many as before:
none. -/
theorem length_rest_advance_le (cursor : Cursor α) :
    cursor.advance.rest.length ≤ cursor.rest.length := by
  simp [advance]

/-- Moving from an item leaves less ahead. -/
theorem length_rest_advance_lt {cursor : Cursor α} {item : α}
    (standing : cursor.current? = some item) :
    cursor.advance.rest.length < cursor.rest.length := by
  cases ahead : cursor.rest with
  | nil => simp [current?, ahead] at standing
  | cons head tail => simp [advance, ahead]

end Cursor

end SpriteScript
