import SlotSum.Payload.Basic
import SlotSum.Text.Words

/-!
Slots and the names that are made from theirs. Leading underscores and the mark of a raw name do
not enter the names of functions and variants; the wire key keeps the underscores.
-/

namespace SlotSum

structure Slot where
  name : Name
  payload : Ty
  deriving Inhabited

namespace Slot

/-- A name without the mark of a raw name. -/
def unmarked : List Char → List Char
  | 'r' :: '#' :: rest => rest
  | name => name

/-- The key of the slot on the wire. -/
def key (slot : Slot) : String := String.ofList (unmarked slot.name.text.toList)

/-- The part of the name that other names are made from. -/
def core (slot : Slot) : List Char :=
  (unmarked slot.name.text.toList).dropWhile (· = '_')

/-- What follows the verb in the names of the slot's functions. -/
def stem (slot : Slot) : String := String.ofList (Text.snake slot.core)

def variant (slot : Slot) : String := String.ofList (Text.pascal slot.core)

def method (slot : Slot) (verb : String) : String := verb ++ "_" ++ slot.stem

end Slot

end SlotSum
