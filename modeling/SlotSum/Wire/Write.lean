import SlotSum.Value.Payload
import SlotSum.Wire.Json

/-!
Writing values: a map whose only entry is the first occupied slot, or an empty map.
-/

namespace SlotSum

namespace Slots

/-- The map of slots whose payloads have been written. -/
def written : List String → Slots Json → Json
  | key :: _, some payload :: _ => .object [.mk (some key) payload] true
  | _ :: keys, none :: slots => written keys slots
  | _, _ => .object [] true

end Slots

namespace Payload

/-- A float on the wire; what is not finite is written like nothing. -/
def floatJson (bits : Nat) : Json :=
  match Magnitude.ofBits (floatMagnitude bits) with
  | some magnitude => .number (.fraction (bits ≠ floatMagnitude bits) magnitude)
  | none => .null

mutual

def json : Payload → Json
  | unit => .null
  | boolean value => .boolean value
  | integer _ value => .number (.integer value)
  | float bits => floatJson bits
  | text value => .text (some value)
  | list items => .array (jsonEach items) true
  | optional none => .null
  | optional (some inner) => inner.json
  | pair first second => .array [first.json, second.json] true
  | record keys slots => Slots.written keys (jsonSlots slots)

def jsonEach : List Payload → List Json
  | [] => []
  | first :: rest => first.json :: jsonEach rest

def jsonSlots : List (Option Payload) → List (Option Json)
  | [] => []
  | none :: rest => none :: jsonSlots rest
  | some first :: rest => some first.json :: jsonSlots rest

end

/-- Slots inside a payload are written as those of a value. -/
theorem jsonSlots_eq : (slots : List (Option Payload)) →
    jsonSlots slots = Slots.transform json slots
  | [] => by simp [jsonSlots, Slots.transform]
  | none :: rest => by simp [jsonSlots, Slots.transform, jsonSlots_eq rest]
  | some first :: rest => by simp [jsonSlots, Slots.transform, jsonSlots_eq rest]

end Payload

def Slots.json (keys : List String) (slots : Slots Payload) : Json :=
  written keys (slots.transform Payload.json)

/-- The text of a value; fields that are no slots are not written. -/
def Value.text (keys : List String) (value : Value Payload β) : String :=
  (value.slots.json keys).write

end SlotSum
