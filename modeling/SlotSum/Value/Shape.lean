import SlotSum.Value.Payload

/-!
Shapes of payload types, and plain data that stands for payloads. A shape refers to a type with
slots by its name, so that a type can hold itself.
-/

namespace SlotSum

inductive Shape where
  | unit
  | boolean
  | integer (kind : IntegerKind)
  | float
  | text
  | list (item : Shape)
  | optional (inner : Shape)
  | pair (first second : Shape)
  | record (name : String)
  deriving DecidableEq, Repr, Inhabited

/-- The slots of a named type: their keys and the shapes of their payloads. -/
structure RecordShape where
  keys : List String
  shapes : List Shape
  deriving Repr, Inhabited

abbrev Shapes := String → Option RecordShape

/-- Plain data: an optional is a list of at most one item, a float its bits as text. -/
inductive Datum where
  | null
  | boolean (value : Bool)
  | integer (value : Int)
  | text (value : String)
  | list (items : List Datum)
  /-- Data that stands for nothing. -/
  | other
  deriving Repr, Inhabited

/-- The value of a lower case hexadecimal digit. -/
def nibble? (c : Char) : Option Nat :=
  if c.isDigit then some (c.toNat - '0'.toNat)
  else if 'a' ≤ c && c ≤ 'f' then some (c.toNat - 'a'.toNat + 10)
  else none

/-- The bits of a float from its sixteen lower case hexadecimal digits. -/
def floatBits? (text : String) : Option Nat :=
  match text.toList.mapM nibble? with
  | some nibbles =>
    if nibbles.length = 16 then some (nibbles.foldl (fun bits nibble => 16 * bits + nibble) 0)
    else none
  | none => none

/-- Sixteen lower case hexadecimal digits. -/
def floatText (bits : Nat) : String :=
  let digits := Nat.toDigits 16 bits
  String.ofList (List.replicate (16 - digits.length) '0' ++ digits)

namespace Datum

mutual

/-- The payload of a given shape that a datum stands for. -/
def toPayload (shapes : Shapes) : Datum → Shape → Option Payload
  | null, shape => if shape = .unit then some .unit else none
  | boolean value, shape => if shape = .boolean then some (.boolean value) else none
  | integer value, shape =>
    match shape with
    | .integer kind => if kind.contains value then some (.integer kind value) else none
    | _ => none
  | text value, shape =>
    match shape with
    | .text => some (.text value)
    | .float => (floatBits? value).map .float
    | _ => none
  | list items, shape =>
    match shape with
    | .list item => (toPayloads shapes items item).map .list
    | .optional inner =>
      match items with
      | [] => some (.optional none)
      | [item] => (toPayload shapes item inner).map fun payload => .optional (some payload)
      | _ => none
    | .pair first second =>
      match items with
      | [left, right] => do
        return .pair (← toPayload shapes left first) (← toPayload shapes right second)
      | _ => none
    | .record name => do
      let record ← shapes name
      return .record record.keys (← toSlots shapes items record.shapes)
    | _ => none
  | other, _ => none

def toPayloads (shapes : Shapes) : List Datum → Shape → Option (List Payload)
  | [], _ => some []
  | first :: rest, shape => do
    return (← toPayload shapes first shape) :: (← toPayloads shapes rest shape)

/-- One datum for each slot: an empty list, or a list of its payload. -/
def toSlots (shapes : Shapes) : List Datum → List Shape → Option (List (Option Payload))
  | [], [] => some []
  | first :: rest, shape :: others => do
    return (← toSlot shapes first shape) :: (← toSlots shapes rest others)
  | _, _ => none

def toSlot (shapes : Shapes) : Datum → Shape → Option (Option Payload)
  | list [], _ => some none
  | list [item], shape => (toPayload shapes item shape).map some
  | _, _ => none

end

mutual

def ofPayload : Payload → Datum
  | .unit => null
  | .boolean value => boolean value
  | .integer _ value => integer value
  | .float bits => text (floatText bits)
  | .text value => text value
  | .list items => list (ofPayloads items)
  | .optional none => list []
  | .optional (some inner) => list [ofPayload inner]
  | .pair first second => list [ofPayload first, ofPayload second]
  | .record _ slots => list (ofSlots slots)

def ofPayloads : List Payload → List Datum
  | [] => []
  | first :: rest => ofPayload first :: ofPayloads rest

def ofSlots : List (Option Payload) → List Datum
  | [] => []
  | none :: rest => list [] :: ofSlots rest
  | some first :: rest => list [ofPayload first] :: ofSlots rest

end

end Datum

end SlotSum
