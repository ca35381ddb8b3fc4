import SlotSum.Expansion.Methods
import SlotSum.Schema.Plan

/-!
The traits that the owner implements whatever its options: introspection of the slots, conversions
from and to payloads, and equality with hashing.
-/

namespace SlotSum

/-- A trait that is reached through the library. -/
def hiddenTrait (name : String) (arguments : List Tree) : TraitPath :=
  ⟨Tree.words ":: oneof :: __private ::", name, arguments⟩

def indexLiteral (index : Nat) : List Tree := [.leaf (toString index ++ "usize") false]

def literalList (texts : List String) : List Tree :=
  let literals : List (List Tree) := texts.map fun text => [.leaf (Quoted.literal text) false]
  Tree.seq ["&", Tree.brackets (Tree.commaSeparated literals)]

def ifThen (condition body : List Tree) : List Tree :=
  Tree.seq ["if", condition, Tree.braces body]

def returning (value : List Tree) : List Tree := Tree.seq ["return", value, ";"]

namespace Schema

def implementing (schema : Schema) (generics : Generics) (ofTrait : TraitPath)
    (members : List GeneratedMember) : Implementation :=
  ⟨[], generics, some ofTrait, schema.ownerTrees, members⟩

/-! ### Introspection -/

def staticList (name : String) (texts : List String) : GeneratedMember :=
  .other <| Tree.seq
    [ "const", name, ":", Tree.words "& 'static", Tree.brackets (Tree.words "& 'static str"), "=",
      literalList texts, ";" ]

/-- The constant that names the owner together with its module. -/
def nameConstant (schema : Schema) : GeneratedMember :=
  let modulePath := callOf (Tree.words ":: core :: module_path !") []
  let parts := [modulePath, Quoted.literal "::", Quoted.literal schema.owner.text]
  let joined := callOf (Tree.words ":: core :: concat !") parts
  .other <| Tree.seq [Tree.words "const NAME : & 'static str =", joined, ";"]

def occupiedIndexFunction (schema : Schema) : Function where
  before := []
  name := "occupied_index"
  binders := []
  receiver := .shared
  parameters := []
  trailing := false
  after := Tree.seq ["->", optionalOf "usize"]
  body :=
    let checks := schema.slots.zipIdx.flatMap fun (slot, index) =>
      ifThen (callOf (Tree.seq [slot.of "self", ".", "is_some"]) [])
        (returning (presentOf (indexLiteral index)))
    Tree.seq [checks, absent]

def introspection (schema : Schema) : Implementation :=
  schema.implementing schema.generics ⟨Tree.words ":: oneof ::", "OneOf", []⟩
    [ schema.nameConstant,
      staticList "VARIANTS" (schema.slots.map Slot.variant),
      staticList "PAYLOAD_TYPES" (schema.slots.map fun slot => slot.payload.display),
      .function schema.occupiedIndexFunction ]

/-! ### Conversions -/

/-- The conversion of a slot's payload into the owner goes through the slot's factory. -/
def fromPayload (schema : Schema) (slot : Slot) : Implementation :=
  schema.implementing schema.generics
    (hiddenTrait "From" (Tree.seq ["<", slot.payloadTrees, ">"]))
    [ .function
        { before := [], name := "from", binders := [], receiver := .absent
          parameters := [⟨false, "payload", slot.payloadTrees⟩]
          trailing := false
          after := ["->", "Self"]
          body := callOf (Tree.seq ["Self", "::", slot.method "from"]) ["payload"] } ]

/-- The conversion of the owner into a slot's payload hands the owner back unless that slot is the
first occupied one. -/
def tryFromOwner (schema : Schema) (slot : Slot) (index : Nat) : Implementation where
  attributes := []
  generics := schema.generics
  ofTrait := some (hiddenTrait "TryFrom" (Tree.seq ["<", schema.ownerTrees, ">"]))
  target := slot.payloadTrees
  members :=
    let isFirst :=
      Tree.seq
        [ callOf (libraryPath "OneOf :: occupied_index") [Tree.words "& value"], "==",
          presentOf (indexLiteral index) ]
    let taken := callOf (Tree.seq [slot.of "value", ".", "take"]) []
    [ .other (Tree.seq [Tree.words "type Error =", schema.ownerTrees, ";"]),
      .function
        { before := [], name := "try_from", binders := [], receiver := .absent
          parameters := [⟨true, "value", schema.ownerTrees⟩]
          trailing := false
          after := Tree.seq ["->", resultOf "Self" (Tree.words "Self :: Error")]
          body :=
            Tree.seq
              [ ifThen isFirst
                  (ifLet (presentOf "payload") taken (returning (successOf "payload"))),
                failureOf "value" ] } ]

def conversionsFor (schema : Schema) (slot : Slot) (conversions : Conversions) (index : Nat) :
    List Implementation :=
  (if conversions.into then [schema.fromPayload slot] else []) ++
    if conversions.outOf then [schema.tryFromOwner slot index] else []

def conversions (schema : Schema) (plan : Plan) : List Implementation :=
  (schema.slots.zip plan.conversions).zipIdx.flatMap fun ((slot, conversions), index) =>
    schema.conversionsFor slot conversions index

/-! ### Equality -/

/-- No slot but the given one is occupied, in either value. -/
def othersVacant (schema : Schema) (slot : Slot) : List Tree :=
  let others := schema.slots.filter fun other => other.name.text != slot.name.text
  let vacancies := others.map fun other =>
    Tree.seq
      [ callOf (Tree.seq [other.of "self", ".", "is_none"]) [], "&&",
        callOf (Tree.seq [other.of "other", ".", "is_none"]) [] ]
  if vacancies.isEmpty then "true" else Tree.seq (vacancies.intersperse [.leaf "&&" false])

/-- Both values occupy the slot and no other, and their payloads decide. -/
def equalityArm (schema : Schema) (slot : Slot) : List Tree :=
  ifLet (pairOf (presentOf "left") (presentOf "right"))
    (pairOf (slot.borrowed "self") (slot.borrowed "other"))
    (ifThen (schema.othersVacant slot) (returning (Tree.words "left == right")))

def hiddenBound (name : String) : List Node := Node.raw (hiddenPath name)

def partialEquality (schema : Schema) : Implementation :=
  schema.implementing (schema.boundedGenerics (hiddenBound "PartialEq"))
    (hiddenTrait "PartialEq" [])
    [ .function
        { before := [], name := "eq", binders := [], receiver := .shared
          parameters := [⟨false, "other", Tree.words "& Self"⟩]
          trailing := false
          after := ["->", "bool"]
          body :=
            Tree.seq
              [ ifThen (callOf (hiddenPath "ptr_eq") ["self", "other"]) (returning "true"),
                schema.slots.flatMap schema.equalityArm, "false" ] } ]

def fullEquality (schema : Schema) : Implementation :=
  schema.implementing (schema.boundedGenerics (hiddenBound "Eq")) (hiddenTrait "Eq" []) []

/-- A slot feeds its payload, or a zero byte if it is empty. -/
def hashArm (slot : Slot) : List Tree :=
  let feeding (value : List Tree) := callOf (hiddenPath "Hash :: hash") [value, "state"]
  Tree.seq
    [ "match", slot.borrowed "self",
      Tree.braces
        (Tree.commaTerminated
          [ Tree.seq [presentOf "payload", "=>", feeding "payload"],
            Tree.seq [absent, "=>", feeding (Tree.words "& 0u8")] ]) ]

def hashing (schema : Schema) : Implementation :=
  schema.implementing (schema.boundedGenerics (hiddenBound "Hash")) (hiddenTrait "Hash" [])
    [ .function
        { before := [], name := "hash", binders := [⟨"__H", hiddenPath "Hasher"⟩]
          receiver := .shared
          parameters := [⟨false, "state", Tree.words "& mut __H"⟩]
          trailing := false
          after := []
          body := schema.slots.flatMap hashArm } ]

def equality (schema : Schema) (equalities : Equalities) : List Implementation :=
  [schema.partialEquality] ++ (if equalities.eq then [schema.fullEquality] else []) ++
    if equalities.hash then [schema.hashing] else []

end Schema

end SlotSum
