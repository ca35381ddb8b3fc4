import SlotSum.Schema.Plan
import SlotSum.Value.Slots

/-!
What the expansion of a declaration makes of its slots at run time: their names and types, and the
conversions and traits that there are.
-/

namespace SlotSum

structure Layout where
  /-- The name of the type, with the module that it is declared in. -/
  path : String
  variants : List String
  keys : List String
  payloadTypes : List String
  conversions : List Conversions
  /-- Slots that hold a box of the owner. -/
  boxesOwner : List Bool
  equalities : Equalities
  wire : Bool
  clone : Bool
  deriving Repr, Inhabited

namespace Layout

/-- A box of the owner and nothing else. -/
def isBoxOf (schema : Schema) (slot : Slot) : Bool :=
  match slot.payload.bare with
  | .path _ [.mk name arguments] =>
    name == "Box" &&
      (Ty.soleArgument? arguments).any fun inner =>
        inner.key == Tree.renderAll schema.ownerTrees
  | _ => false

def ofSchema (place : String) (schema : Schema) (plan : Plan) : Layout where
  path := place ++ "::" ++ schema.owner.text
  variants := schema.slots.map Slot.variant
  keys := schema.slots.map Slot.key
  payloadTypes := schema.slots.map fun slot => slot.payload.display
  conversions := plan.conversions
  boxesOwner := schema.slots.map (isBoxOf schema)
  equalities := plan.equalities
  wire := plan.requests.contains .serde
  clone := schema.derives.any fun derived => derived.trait? == some "Clone"

def noVariantOccupied (layout : Layout) : NoVariantOccupied := ⟨layout.path, layout.payloadTypes⟩

def hasInto (layout : Layout) (slot : Nat) : Bool :=
  layout.conversions[slot]?.any Conversions.into

def hasOutOf (layout : Layout) (slot : Nat) : Bool :=
  layout.conversions[slot]?.any Conversions.outOf

/-- The conversions that hold of the types. A box of the owner can also be made from the owner
itself, so there is a conversion that takes no slot apart. -/
def conversionFacts (layout : Layout) : List Conversions :=
  (layout.conversions.zip layout.boxesOwner).map fun (conversions, boxed) =>
    ⟨conversions.into, conversions.outOf || boxed⟩

/-- Applies the handler of the first occupied slot. -/
def map (layout : Layout) (slots : Slots α) (handlers : List (α → β)) :
    Except NoVariantOccupied β :=
  match Slots.map slots handlers with
  | some result => .ok result
  | none => .error layout.noVariantOccupied

/-- Runs the handler of the first occupied slot. -/
def visit {m : Type → Type} [Monad m] (layout : Layout) (slots : Slots α)
    (handlers : List (α → m Unit)) : m (Except NoVariantOccupied Unit) := do
  if ← Slots.visit slots handlers then return .ok () else return .error layout.noVariantOccupied

end Layout

end SlotSum
