import SlotSum.Schema.Basic
import SlotSum.Payload.Overlap

/-!
What an expansion consists of. Conversions are planned for no slot if two payloads might be one
type, and conversions out of the owner only for payloads that the rules of coherence allow.
-/

namespace SlotSum

inductive Request where
  | constructor
  | factories
  | accessors
  | dispatch
  | introspection
  | conversions
  | equality
  | serde
  deriving DecidableEq, Repr

namespace Request

def name : Request → String
  | constructor => "Constructor"
  | factories => "Factories"
  | accessors => "Accessors"
  | dispatch => "Dispatch"
  | introspection => "Introspection"
  | conversions => "Conversions"
  | equality => "Equality"
  | serde => "Serde"

def all : List Request :=
  [constructor, factories, accessors, dispatch, introspection, conversions, equality, serde]

end Request

inductive ConstructorPlan where
  | generate
  | handWritten
  deriving DecidableEq, Repr

namespace ConstructorPlan

def name : ConstructorPlan → String
  | generate => "Generate"
  | handWritten => "HandWritten"

end ConstructorPlan

/-- Which conversions a slot has: into the owner, and out of it. -/
structure Conversions where
  into : Bool
  outOf : Bool
  deriving DecidableEq, Repr, Inhabited

/-- Which traits of equality are implemented beyond partial equality. -/
structure Equalities where
  eq : Bool
  hash : Bool
  deriving DecidableEq, Repr, Inhabited

structure Plan where
  duplicates : Bool
  constructor : ConstructorPlan
  conversions : List Conversions
  equalities : Equalities
  requests : List Request
  deriving DecidableEq, Repr

namespace Plan

/-- Two payloads could be one type, whatever the parameters stand for. -/
def hasDuplicates (slots : List Slot) : Bool :=
  Ty.anyOverlap [] (slots.map Slot.payload)

/-! ### Derives -/

def implementedTraits (options : Options) : List String :=
  ["PartialEq"] ++ (if options.hash then ["Hash"] else []) ++ (if options.eq then ["Eq"] else []) ++
    (if options.serde then ["Serialize", "Deserialize"] else [])

/-- A derive of a trait that is implemented anyway. -/
def derivedTwice? (options : Options) (derived : Derived) : Option Diagnostic :=
  match derived.trait? with
  | none => none
  | some trait =>
    if (implementedTraits options).contains trait then some ⟨.derivedTwice trait, derived.span⟩
    else none

def deriveConflicts (options : Options) (derives : List Derived) : List Diagnostic :=
  derives.filterMap (derivedTwice? options)

/-! ### The constructor -/

/-- A parameter that takes a slot: its type is optional, with the slot's payload. -/
def takesSlot (input : Input) (slot : Slot) : Bool :=
  match input with
  | .typed _ _ type => type.payload?.any fun payload => payload.key == slot.payload.key
  | .receiver _ => false

/-- One parameter for each slot, in order, and no receiver. -/
def takesSlots (signature : Signature) (slots : List Slot) : Bool :=
  !signature.hasReceiver && signature.inputs.length == slots.length &&
    (signature.inputs.zip slots).all fun (input, slot) => takesSlot input slot

def constructorPlan (schema : Schema) : Checked ConstructorPlan :=
  match schema.constructor with
  | none => .ok .generate
  | some signature =>
    if takesSlots signature schema.slots then .ok .handWritten
    else
      let slots := schema.slots.map fun slot => (slot.name.text, slot.payload.display)
      .error [⟨.otherConstructor slots, signature.span⟩]

/-! ### Conversions -/

/-- No two payloads could be one type for any choice of the parameters. -/
def areApart (schema : Schema) : Bool :=
  !hasDuplicates schema.slots &&
    !Ty.anyOverlap schema.typeParams (schema.slots.map Slot.payload)

def conversionsOf (schema : Schema) (slot : Slot) : Conversions :=
  ⟨true, !slot.payload.isUncovered schema.typeParams && !schema.isRecursive slot⟩

def planConversions (schema : Schema) : List Conversions :=
  if areApart schema then schema.slots.map (conversionsOf schema)
  else schema.slots.map fun _ => ⟨false, false⟩

/-! ### The plan -/

def requestsOf (constructor : ConstructorPlan) (conversions : List Conversions)
    (options : Options) : List Request :=
  (if constructor = .generate then [Request.constructor] else []) ++
    [Request.factories, Request.accessors, Request.dispatch, Request.introspection] ++
    (if conversions.any fun each => each.into || each.outOf then [Request.conversions] else []) ++
    [Request.equality] ++ (if options.serde then [Request.serde] else [])

/-- The plan for a schema. Derives are checked before the constructor. -/
def analyze (schema : Schema) (options : Options) : Checked Plan :=
  match deriveConflicts options schema.derives with
  | [] => do
    let constructor ← constructorPlan schema
    let conversions := planConversions schema
    return {
      duplicates := hasDuplicates schema.slots
      constructor
      conversions
      equalities := ⟨options.eq, options.hash⟩
      requests := requestsOf constructor conversions options }
  | conflicts => .error conflicts

end Plan

end SlotSum
