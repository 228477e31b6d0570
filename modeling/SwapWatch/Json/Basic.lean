import SwapWatch.Text.Points

/-!
# JSON values

The fields of a record keep the order in which they were first written. Whole numbers have any size.
-/

set_option autoImplicit false

namespace SwapWatch

open Text (Points)

inductive Json where
  | null
  | bool (value : Bool)
  | int (value : Int)
  | real (value : Float)
  | text (value : Points)
  | list (items : List Json)
  | record (fields : List (Points × Json))
deriving Inhabited

namespace Json

def ofString (value : String) : Json :=
  text value

def fieldIn? (name : Points) (fields : List (Points × Json)) : Option Json :=
  fields.lookup name

def field? (name : Points) : Json → Option Json
  | .record fields => fieldIn? name fields
  | _ => none

/-- Does the value say anything? Nothing, false, zero and what is empty do not. -/
def isTelling : Json → Bool
  | null => false
  | bool value => value
  | int value => value ≠ 0
  | real value => value != 0.0
  | text value => !value.isEmpty
  | list items => !items.isEmpty
  | record fields => !fields.isEmpty

/-- The most digits of a whole number that is read or written. -/
def maxDigits : Nat := 4300

def isShort (value : Int) : Bool :=
  (Nat.toDigits 10 value.natAbs).length ≤ maxDigits

end Json

end SwapWatch
