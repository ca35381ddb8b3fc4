import SlotSum.Value.Slots

/-!
Payloads of slots. Boxes and types with one unnamed field count as what they hold; a payload may
itself be a value with slots, also one of the type that holds it.
-/

namespace SlotSum

/-- An integer type: whether it has negative numbers, and how many bytes it takes. -/
structure IntegerKind where
  signed : Bool
  width : Nat
  deriving DecidableEq, Repr, Inhabited

namespace IntegerKind

def name (kind : IntegerKind) : String :=
  (if kind.signed then "i" else "u") ++ toString (8 * kind.width)

/-- How many numbers there are. -/
def modulus (kind : IntegerKind) : Int := Int.ofNat (1 <<< (8 * kind.width))

def least (kind : IntegerKind) : Int := if kind.signed then -(kind.modulus / 2) else 0

def greatest (kind : IntegerKind) : Int := kind.least + kind.modulus - 1

def contains (kind : IntegerKind) (value : Int) : Bool :=
  kind.least ≤ value && value ≤ kind.greatest

end IntegerKind

/-- The lowest bytes of a number, the lowest one first. -/
def littleEndian : Nat → Nat → List UInt8
  | 0, _ => []
  | width + 1, value => UInt8.ofNat value :: littleEndian width (value / 256)

inductive Payload where
  | unit
  | boolean (value : Bool)
  | integer (kind : IntegerKind) (value : Int)
  /-- A binary fraction of double precision by its bits. -/
  | float (bits : Nat)
  | text (value : String)
  | list (items : List Payload)
  | optional (inner : Option Payload)
  | pair (first second : Payload)
  /-- A value with slots, and the keys of its slots. -/
  | record (keys : List String) (slots : List (Option Payload))
  deriving Repr, Inhabited

/-! ### Equality -/

/-- The bits of a float without its sign. -/
def floatMagnitude (bits : Nat) : Nat := bits % 1 <<< 63

/-- The bits of infinity; those above stand for no number. -/
def floatInfinity : Nat := 0x7ff <<< 52

/-- Equality of floats: what is no number equals nothing, and both zeros are equal. -/
def sameFloat (left right : Nat) : Bool :=
  floatMagnitude left ≤ floatInfinity && floatMagnitude right ≤ floatInfinity &&
    (left = right || floatMagnitude left = 0 && floatMagnitude right = 0)

/-- Two lists agree item by item. -/
def agreeEach : List (α → Bool) → List α → Bool
  | [], [] => true
  | equal :: equals, item :: items => equal item && agreeEach equals items
  | _, _ => false

namespace Payload

mutual

/-- Whether a payload equals another one. Values inside it are never the same instance. -/
def same : Payload → Payload → Bool
  | unit => fun other => match other with | unit => true | _ => false
  | boolean value => fun other => match other with | boolean value' => value = value' | _ => false
  | integer kind value => fun other =>
    match other with | integer kind' value' => kind = kind' && value = value' | _ => false
  | float bits => fun other => match other with | float bits' => sameFloat bits bits' | _ => false
  | text value => fun other => match other with | text value' => value = value' | _ => false
  | list items => fun other =>
    match other with | list items' => agreeEach (sameItems items) items' | _ => false
  | optional none => fun other => match other with | optional none => true | _ => false
  | optional (some inner) => fun other =>
    match other with | optional (some inner') => inner.same inner' | _ => false
  | pair first second => fun other =>
    match other with
    | pair first' second' => first.same first' && second.same second'
    | _ => false
  | record _ slots => fun other =>
    match other with | record _ slots' => Slots.agree (sameSlots slots) slots' | _ => false

def sameItems : List Payload → List (Payload → Bool)
  | [] => []
  | first :: rest => first.same :: sameItems rest

def sameSlots : List (Option Payload) → List (Option (Payload → Bool))
  | [] => []
  | none :: rest => none :: sameSlots rest
  | some first :: rest => some first.same :: sameSlots rest

end

/-- Slots inside a payload are compared as those of a value. -/
theorem sameSlots_eq : (slots : List (Option Payload)) →
    sameSlots slots = Slots.transform same slots
  | [] => by simp [sameSlots, Slots.transform]
  | none :: rest => by simp [sameSlots, Slots.transform, sameSlots_eq rest]
  | some first :: rest => by simp [sameSlots, Slots.transform, sameSlots_eq rest]

/-! ### Hashing -/

mutual

/-- The bytes that a payload feeds to a hasher. Lengths and the choice of an optional take eight
bytes, and a text ends with a byte that no text contains. Floats cannot be hashed. -/
def bytes : Payload → List UInt8
  | unit => []
  | boolean value => [if value then 1 else 0]
  | integer kind value => littleEndian kind.width (value % kind.modulus).toNat
  | float _ => []
  | text value => value.toUTF8.toList ++ [0xff]
  | list items => littleEndian 8 items.length ++ bytesEach items
  | optional none => littleEndian 8 0
  | optional (some inner) => littleEndian 8 1 ++ inner.bytes
  | pair first second => first.bytes ++ second.bytes
  | record _ slots => Slots.digest (bytesSlots slots)

def bytesEach : List Payload → List UInt8
  | [] => []
  | first :: rest => first.bytes ++ bytesEach rest

def bytesSlots : List (Option Payload) → List (Option (List UInt8))
  | [] => []
  | none :: rest => none :: bytesSlots rest
  | some first :: rest => some first.bytes :: bytesSlots rest

end

/-- Slots inside a payload are hashed as those of a value. -/
theorem bytesSlots_eq : (slots : List (Option Payload)) →
    bytesSlots slots = Slots.transform bytes slots
  | [] => by simp [bytesSlots, Slots.transform]
  | none :: rest => by simp [bytesSlots, Slots.transform, bytesSlots_eq rest]
  | some first :: rest => by simp [bytesSlots, Slots.transform, bytesSlots_eq rest]

end Payload

end SlotSum
