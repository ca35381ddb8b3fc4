import SlotSum.Expansion.Traits
import SlotSum.Value.Slots

/-!
The wire format of a value: a map with at most one entry, whose key is the key of the occupied slot
and whose value is its payload.
-/

namespace SlotSum

/-- A name in the serialization library, which generated code reaches through its own. -/
def wirePath (name : String) : List Tree := hiddenPath ("serde :: serde_crate :: " ++ name)

/-- A helper that generated code relies on to read and write maps of one entry. -/
def wireHelper (name : String) : List Tree := hiddenPath ("serde :: " ++ name)

def wireTrait (before name : String) (arguments : List Tree) : TraitPath :=
  ⟨Tree.words (":: oneof :: __private :: serde :: serde_crate ::" ++ before), name, arguments⟩

def whereBound (name : String) (bound : List Tree) : List Tree :=
  Tree.seq ["where", name, ":", bound, ","]

/-- The lifetime of borrowed input, as the only argument. -/
def borrowArgument : List Tree := Tree.words "< 'de >"

namespace Schema

/-! ### Writing -/

def serialization (schema : Schema) : Implementation :=
  let bound := [Node.raw (wirePath "Serialize")]
  schema.implementing (schema.boundedGenerics bound) (wireTrait "" "Serialize" [])
    [ .function
        { before := [], name := "serialize", binders := [⟨"__S", []⟩], receiver := .shared
          parameters := [⟨false, "serializer", "__S"⟩]
          trailing := false
          after :=
            Tree.seq
              [ "->", resultOf (Tree.words "__S :: Ok") (Tree.words "__S :: Error"),
                whereBound "__S" (wirePath "Serializer") ]
          body :=
            let checks := schema.slots.flatMap fun slot =>
              ifLet (presentOf "payload") (slot.borrowed "self")
                (returning
                  (callOf (wireHelper "serialize_slot")
                    ["serializer", Quoted.literal slot.key, "payload"]))
            Tree.seq [checks, callOf (wireHelper "serialize_vacant") ["serializer"]] } ]

/-! ### Reading -/

def borrowParam : GenericParam := .lifetime [] "'de" []

/-- Generics with the lifetime of borrowed input in front. -/
def borrowing (generics : Generics) : Generics :=
  { generics with params := borrowParam :: generics.params }

def readingGenerics (schema : Schema) : Generics :=
  borrowing (schema.boundedGenerics [Node.raw (wirePath "Deserialize" ++ borrowArgument)])

def keys (schema : Schema) : List String := schema.slots.map Slot.key

def ownerCall (schema : Schema) (name : String) (arguments : List (List Tree)) : List Tree :=
  callOf (Tree.seq ["<", schema.ownerTrees, ">", "::", name]) arguments

/-- The type that holds no data but stands for the owner while it is read. -/
def visitorStruct (schema : Schema) : List Tree :=
  let phantom :=
    Tree.seq
      [ hiddenPath "PhantomData", "<", "fn", Tree.parens [], "->", schema.ownerTrees, ">" ]
  Tree.seq
    [ "struct", "__Visitor", Node.treesAll (schema.generics.nodes .implementation),
      Tree.parens phantom, Node.treesAll schema.generics.whereNodes, ";" ]

def expectingFunction (schema : Schema) : Function where
  before := []
  name := "expecting"
  binders := []
  receiver := .shared
  parameters :=
    [ ⟨false, "formatter",
        Tree.seq [Tree.words "& mut", hiddenPath "fmt :: Formatter", Tree.words "< '_ >"]⟩ ]
  trailing := false
  after := Tree.seq ["->", hiddenPath "fmt :: Result"]
  body :=
    callOf (Tree.words "formatter . write_str") [Quoted.literal (Slots.expectation schema.keys)]

def keyFactories (schema : Schema) : List (String × String) :=
  schema.slots.map fun slot => (slot.key, slot.method "from")

def keyArms (schema : Schema) : List Tree :=
  let payload := Tree.seq [callOf (Tree.words "map . next_value") [], "?"]
  let arms := schema.keyFactories.map fun (key, factory) =>
    Tree.seq [Quoted.literal key, "=>", schema.ownerCall factory [payload]]
  let unknownVariant :=
    Tree.seq
      [ Tree.words "< __A :: Error as", wirePath "de :: Error", Tree.words "> :: unknown_variant",
        Tree.parens (Tree.commaSeparated [Tree.words "& key", "KEYS"]) ]
  let failure :=
    Tree.seq [hiddenPath "Result :: Err", Tree.parens (Tree.commaTerminated [unknownVariant])]
  Tree.seq [Tree.commaTerminated arms, "_", "=>", Tree.braces (returning failure)]

def visitMapFunction (schema : Schema) : Function where
  before := []
  name := "visit_map"
  binders := [⟨"__A", []⟩]
  receiver := .owned
  parameters := [⟨true, "map", "__A"⟩]
  trailing := false
  after :=
    Tree.seq
      [ "->", resultOf (Tree.words "Self :: Value") (Tree.words "__A :: Error"),
        whereBound "__A" (Tree.seq [wirePath "de :: MapAccess", borrowArgument]) ]
  body :=
    let nextKey :=
      Tree.seq
        [ callOf
            (Tree.seq [Tree.words "map . next_key :: <", hiddenPath "String", ">"]) [], "?" ]
    let vacant := schema.ownerCall "new" (schema.slots.map fun _ => absent)
    let asText := callOf (Tree.words "key . as_str") []
    let ending :=
      callOf (wireHelper "end_single_entry") [Tree.words "& mut map", Tree.words "& self"]
    Tree.seq
      [ Tree.words "const KEYS : &", Tree.brackets (Tree.words "& str"), "=",
        literalList schema.keys, ";",
        "let", presentOf "key", "=", nextKey, "else", Tree.braces (returning (successOf vacant)),
        ";",
        Tree.words "let value = match", asText, Tree.braces schema.keyArms, ";",
        ending, "?", ";",
        successOf "value" ]

/-- The reader of a map: an absent entry is a vacant value, and only one entry may follow. -/
def visitor (schema : Schema) : Implementation where
  attributes := []
  generics := schema.readingGenerics
  ofTrait := some (wireTrait " de ::" "Visitor" borrowArgument)
  target := Tree.seq ["__Visitor", Node.treesAll (schema.generics.nodes .arguments)]
  members :=
    [ .other (Tree.seq [Tree.words "type Value =", schema.ownerTrees, ";"]),
      .function schema.expectingFunction,
      .function schema.visitMapFunction ]

def deserialization (schema : Schema) : Implementation :=
  schema.implementing schema.readingGenerics (wireTrait "" "Deserialize" borrowArgument)
    [ .function
        { before := [], name := "deserialize", binders := [⟨"__D", []⟩], receiver := .absent
          parameters := [⟨false, "deserializer", "__D"⟩]
          trailing := false
          after :=
            Tree.seq
              [ "->", resultOf "Self" (Tree.words "__D :: Error"),
                whereBound "__D" (Tree.seq [wirePath "Deserializer", borrowArgument]) ]
          body :=
            let visitorValue := callOf "__Visitor" [hiddenPath "PhantomData"]
            Tree.seq
              [ schema.visitorStruct, schema.visitor.trees,
                wirePath "Deserializer :: deserialize_map",
                Tree.parens (Tree.commaTerminated ["deserializer", visitorValue]) ] } ]

def wire (schema : Schema) : List Implementation :=
  [schema.serialization, schema.deserialization]

end Schema

end SlotSum
