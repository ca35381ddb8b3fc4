import SlotSum.Schema.Options
import SlotSum.Schema.Slot
import SlotSum.Source.Item
import SlotSum.Source.Mention

/-!
The schema of a declaration: which of its fields are slots, and what else an expansion has to know.
A field is a slot if it is private, its type is optional, and it is not opted out. All fields with
bad options and all slots whose functions would share a name are reported together.
-/

namespace SlotSum

/-- A structure with the inherent implementations written next to it. -/
structure Declaration where
  item : StructItem
  impls : List ImplItem
  deriving Inhabited

namespace Declaration

def ofStruct (item : StructItem) : Declaration := ⟨item, []⟩

/-- An inherent implementation of the structure, which the last segment of its type names. -/
def owns (item : StructItem) (impl_ : ImplItem) : Bool :=
  !impl_.ofTrait &&
    match impl_.selfType.bare with
    | .path _ segments => segments.getLast?.any fun last => last.name == item.name.text
    | _ => false

/-- The structure with those of the items that it owns. -/
def ofItems (item : StructItem) (items : List Item) : Declaration :=
  ⟨item, items.filterMap fun other => match other with
    | .impl impl_ => if owns item impl_ then some impl_ else none
    | _ => none⟩

end Declaration

structure Schema where
  owner : Name
  visibility : Visibility
  generics : Generics
  slots : List Slot
  others : List Name
  derives : List Derived
  constructor : Option Signature
  deriving Inhabited

namespace Schema

def ownerNodes (schema : Schema) : List Node :=
  Node.word schema.owner.text :: schema.generics.nodes .arguments

def ownerTrees (schema : Schema) : List Tree := Node.treesAll schema.ownerNodes

def visibilityTrees (schema : Schema) : List Tree := Node.treesAll schema.visibility.nodes

/-- Names by which a payload refers back to the owner. -/
def ownNames (schema : Schema) : List String := [schema.owner.text, "Self"]

/-- A slot whose payload refers back to the owner. -/
def isRecursive (schema : Schema) (slot : Slot) : Bool := slot.payload.mentions schema.ownNames

def typeParams (schema : Schema) : List String := schema.generics.typeParams

/-- The owner's generics with a bound on every payload that does not refer back to the owner: a bound
on one that does would be proved through the implementation that it is put on. -/
def boundedGenerics (schema : Schema) (bound : List Node) : Generics :=
  let payloads := (schema.slots.filter fun slot => !schema.isRecursive slot).map Slot.payload
  let added := payloads.map fun payload => Node.seq [[Node.type payload], [Node.word ":"], bound]
  let generics := schema.generics
  { generics with
    predicates := generics.predicates ++ added
    predicatesTrailing := generics.predicatesTrailing && added.isEmpty }

/-! ### Extraction -/

/-- What a field turns out to be. -/
inductive Role where
  | slot (slot : Slot)
  | other (name : Name)
  | faulty (diagnostics : List Diagnostic)

def roleOf (field : Field) (name : Name) : Role :=
  match skips field.attributes with
  | .error diagnostics => .faulty diagnostics
  | .ok skipped =>
    match field.type.payload? with
    | some payload =>
      if field.visibility.isInherited && !skipped then .slot ⟨name, payload⟩ else .other name
    | none => .other name

def roles (fields : List Field) : List Role :=
  fields.filterMap fun field => field.name.map (roleOf field)

def slotsOf (roles : List Role) : List Slot :=
  roles.filterMap fun role => match role with
    | .slot slot => some slot
    | _ => none

def othersOf (roles : List Role) : List Name :=
  roles.filterMap fun role => match role with
    | .other name => some name
    | _ => none

def faultsOf (roles : List Role) : List Diagnostic :=
  roles.flatMap fun role => match role with
    | .faulty diagnostics => diagnostics
    | _ => []

/-- Slots with the stem of an earlier one; `earlier` hold the first slot of each stem. -/
def clashesFrom (earlier : List Slot) : List Slot → List Diagnostic
  | [] => []
  | slot :: rest =>
    match earlier.find? fun other => other.stem == slot.stem with
    | some first =>
      ⟨.sameStem slot.name.text first.name.text slot.stem, slot.name.span⟩ ::
        clashesFrom earlier rest
    | none => clashesFrom (earlier ++ [slot]) rest

def clashes (slots : List Slot) : List Diagnostic := clashesFrom [] slots

def functionsOf (impl_ : ImplItem) : List Signature :=
  impl_.members.filterMap fun member => match member with
    | .function _ signature _ => some signature
    | .other _ => none

/-- The first function named `new` in the implementations. -/
def constructorIn (impls : List ImplItem) : Option Signature :=
  (impls.flatMap functionsOf).find? fun signature => signature.name.text == "new"

/-- The schema of a declaration; none if it has no slots. -/
def extract (declaration : Declaration) : Checked (Option Schema) :=
  let item := declaration.item
  match item.fields with
  | .named fields _ =>
    let roles := roles fields
    let slots := slotsOf roles
    match faultsOf roles ++ clashes slots with
    | [] =>
      if slots.isEmpty then .ok none
      else
        match derivedPaths item.attributes with
        | .error diagnostics => .error diagnostics
        | .ok derives =>
          .ok <| some
            { owner := item.name, visibility := item.visibility, generics := item.generics, slots,
              others := othersOf roles, derives,
              constructor := constructorIn declaration.impls }
    | diagnostics => .error diagnostics
  | .positional .. => .ok none
  | .unit => .ok none

end Schema

end SlotSum
