/-!
Values of a type with slots. All observers look at the slots in order and stop at the first one that
fits; a value may occupy several slots or none.
-/

namespace SlotSum

/-- What each slot of a value holds, in order. -/
abbrev Slots (α : Type) := List (Option α)

namespace Slots

def vacant (count : Nat) : Slots α := List.replicate count none

/-- Slots of which only one is occupied. -/
def only (count index : Nat) (payload : α) : Slots α :=
  (List.range count).map fun other => if other = index then some payload else none

def transform (change : α → β) (slots : Slots α) : Slots β := List.map (Option.map change) slots

def payloadAt (slots : Slots α) (index : Nat) : Option α := slots[index]?.join

/-! ### Introspection -/

/-- The index of the first occupied slot. -/
def occupiedIndex : Slots α → Option Nat
  | [] => none
  | some _ :: _ => some 0
  | none :: rest => (occupiedIndex rest).map (· + 1)

def isVacant (slots : Slots α) : Bool := slots.occupiedIndex.isNone

def variantName (variants : List String) (slots : Slots α) : Option String :=
  slots.occupiedIndex.bind fun index => variants[index]?

/-! ### Dispatch -/

/-- Applies the handler of the first occupied slot. -/
def map : Slots α → List (α → β) → Option β
  | some payload :: _, handler :: _ => some (handler payload)
  | none :: slots, _ :: handlers => map slots handlers
  | _, _ => none

/-- Runs the handler of the first occupied slot, and tells whether there was one. -/
def visit {m : Type → Type} [Monad m] : Slots α → List (α → m Unit) → m Bool
  | some payload :: _, handler :: _ => do
    handler payload
    return true
  | none :: slots, _ :: handlers => visit slots handlers
  | _, _ => return false

/-- Applies the handler of the first slot that is occupied and has one; otherwise the default. -/
def mapOrElse (default : Unit → β) : Slots α → List (Option (α → β)) → β
  | some payload :: _, some handler :: _ => handler payload
  | _ :: slots, _ :: handlers => mapOrElse default slots handlers
  | _, _ => default ()

/-- Runs the handler of the first slot that is occupied and has one; otherwise the default. -/
def visitOrElse {m : Type → Type} (default : m Unit) :
    Slots α → List (Option (α → m Unit)) → m Unit
  | some payload :: _, some handler :: _ => handler payload
  | _ :: slots, _ :: handlers => visitOrElse default slots handlers
  | _, _ => default

/-! ### Equality and hashing -/

/-- All slots but one are empty. -/
def othersVacant (slots : Slots α) (index : Nat) : Bool :=
  slots.zipIdx.all fun (slot, other) => other = index || slot.isNone

/-- What one slot says about two values: nothing, unless it is occupied in both and no other slot is
occupied in either. -/
def agreementAt (left : Slots (α → Bool)) (right : Slots α) (index : Nat) : Option Bool :=
  match left.payloadAt index, right.payloadAt index with
  | some equal, some payload =>
    if left.othersVacant index && right.othersVacant index then some (equal payload) else none
  | _, _ => none

/-- The first slot that says something decides; two vacant values do not agree. -/
def agree (left : Slots (α → Bool)) (right : Slots α) : Bool :=
  ((List.range left.length).findSome? (agreementAt left right)).getD false

/-- Structural equality of two values, by an equality of payloads. -/
def same (equal : α → α → Bool) (left right : Slots α) : Bool :=
  agree (left.transform equal) right

/-- What slots feed to a hasher: their payloads' bytes, and a zero byte for each empty slot. -/
def digest (slots : Slots (List UInt8)) : List UInt8 :=
  slots.flatMap fun slot => slot.getD [0]

/-- The bytes that a value feeds to a hasher, from those of its payloads. -/
def bytes (feed : α → List UInt8) (slots : Slots α) : List UInt8 :=
  digest (slots.transform feed)

/-! ### Wire format -/

/-- What a reader of slots with given keys expects, as it is named in messages. -/
def expectation (keys : List String) : String :=
  "a map with at most one entry, keyed by one of: " ++
    ", ".intercalate (keys.map fun key => "`" ++ key ++ "`")

end Slots

/-- A value: its slots and the field that is no slot, if there is one. -/
structure Value (α β : Type) where
  slots : Slots α
  extra : β
  deriving Repr, Inhabited

namespace Value

/-- Takes a payload out of a value. Unless its slot is the first occupied one, the value comes back
as it was. -/
def take (value : Value α β) (index : Nat) : Except (Value α β) α :=
  if value.slots.occupiedIndex = some index then
    match value.slots.payloadAt index with
    | some payload => .ok payload
    | none => .error value
  else .error value

end Value

/-- A value that lives somewhere: values with one identity are one value. -/
structure Placed (ι α β : Type) where
  identity : ι
  value : Value α β

namespace Placed

/-- Equality of instances: a value equals itself whatever it holds. -/
def equal [DecidableEq ι] (same : α → α → Bool) (left right : Placed ι α β) : Bool :=
  left.identity = right.identity || Slots.same same left.value.slots right.value.slots

end Placed

/-- The failure of a dispatch that needs an occupied slot. -/
structure NoVariantOccupied where
  owner : String
  expected : List String
  deriving DecidableEq, Repr, Inhabited

namespace NoVariantOccupied

def message (failure : NoVariantOccupied) : String :=
  "no variant of `" ++ failure.owner ++ "` is occupied, expected one of: "
    ++ ", ".intercalate failure.expected

end NoVariantOccupied

end SlotSum
