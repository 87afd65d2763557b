import SpriteScript.Decimal.Binary
import SpriteScript.Text.Basic

/-!
# Data

A dumped program is read from data that anyone may have written, and much of what it holds is
passed on as it stands: a block may be named by a number and linked to by a text. `Datum` is
such a value. Two data are the same when they denote the same thing: a truth value counts as
one or zero, an integer equals the double of the same value, the order of the entries of a
mapping does not matter, and the undefined number is not even the same as itself.
-/

namespace SpriteScript

/-- A value of a dump. The keys of a mapping are distinct and in the order of their entry. -/
inductive Datum where
  | null
  | bool (value : Bool)
  | int (value : Int)
  | float (value : Float)
  | text (value : Text)
  | list (items : List Datum)
  | mapping (entries : List (Text × Datum))

namespace Datum

instance : Inhabited Datum := ⟨.null⟩

/-- A number by its value: an integer, however it is written, or a double that is none. -/
inductive Quantity where
  | integer (value : Int)
  | binary (value : Decimal.Binary)
deriving DecidableEq

/-- The number that a datum denotes. The undefined number denotes none. -/
def quantity? : Datum → Option Quantity
  | .bool value => some (.integer (if value then 1 else 0))
  | .int value => some (.integer value)
  | .float value =>
    match Decimal.toInt? value with
    | some integer => some (.integer integer)
    | none =>
      match Decimal.Binary.ofFloat value with
      | .undefined => none
      | binary => some (.binary binary)
  | _ => none

/-- The value at a key of a mapping. -/
def get? (entries : List (Text × Datum)) (key : Text) : Option Datum :=
  entries.lookup key

mutual

/-- The two data denote the same value. -/
def same : Datum → Datum → Bool
  | .null, .null => true
  | .text left, .text right => left == right
  | .list left, .list right => sameItems left right
  | .mapping left, .mapping right => left.length == right.length && sameEntries left right
  | left, right =>
    match left.quantity?, right.quantity? with
    | some leftValue, some rightValue => decide (leftValue = rightValue)
    | _, _ => false

/-- The same items in the same order. -/
def sameItems : List Datum → List Datum → Bool
  | [], [] => true
  | left :: lefts, right :: rights => same left right && sameItems lefts rights
  | _, _ => false

/-- Every entry on the left has its match on the right. -/
def sameEntries : List (Text × Datum) → List (Text × Datum) → Bool
  | [], _ => true
  | (key, left) :: lefts, rights =>
    (match rights.lookup key with
      | some right => same left right
      | none => false) && sameEntries lefts rights

end

/-- A datum counts as true unless it is nothing, zero or empty. -/
def isTruthy : Datum → Bool
  | .null => false
  | .text value => !value.isEmpty
  | .list items => !items.isEmpty
  | .mapping entries => !entries.isEmpty
  | number => decide (number.quantity? ≠ some (.integer 0))

/-- The name of the kind of value, as messages give it. -/
def typeName : Datum → Text
  | .null => "NoneType"
  | .bool _ => "bool"
  | .int _ => "int"
  | .float _ => "float"
  | .text _ => "str"
  | .list _ => "list"
  | .mapping _ => "dict"

end Datum

end SpriteScript
