import SlotSum.Expansion.Code
import SlotSum.Schema.Basic

/-!
The functions of the owner itself: its constructor, a factory and two accessors for each slot, and
the four ways to dispatch on the slot that is occupied.
-/

namespace SlotSum

namespace Slot

def payloadTrees (slot : Slot) : List Tree := slot.payload.trees

def of (slot : Slot) (value : String) : List Tree := Tree.seq [value, ".", slot.name.text]

def borrowed (slot : Slot) (value : String) : List Tree := Tree.seq ["&", slot.of value]

end Slot

/-- A condition that binds what matches a pattern, with what follows if it holds. -/
def ifLet (pattern value body : List Tree) : List Tree :=
  Tree.seq ["if", "let", pattern, "=", value, Tree.braces body]

def pairOf (first second : List Tree) : List Tree :=
  [Tree.parens (Tree.commaSeparated [first, second])]

namespace Schema

def manyArguments : List Tree := allowAttribute "clippy :: too_many_arguments"

/-! ### Constructor and factories -/

def constructorParameter (slot : Slot) : Parameter :=
  ⟨false, slot.name.text, optionalOf slot.payloadTrees⟩

/-- The constructor takes a payload or nothing for each slot; other fields take their defaults. -/
def constructorFunction (schema : Schema) : Function where
  before := manyArguments
  name := "new"
  binders := []
  receiver := .absent
  parameters := schema.slots.map constructorParameter
  trailing := false
  after := ["->", "Self"]
  body :=
    let slots : List (List Tree) := schema.slots.map fun slot => [.leaf slot.name.text false]
    let others := schema.others.map fun name =>
      Tree.seq [name.text, ":", callOf (hiddenPath "Default :: default") []]
    Tree.seq ["Self", Tree.braces (Tree.commaTerminated (slots ++ others))]

/-- Arguments of the constructor that fill one slot with a payload. -/
def soleArguments (schema : Schema) (index : Nat) : List (List Tree) :=
  (List.range schema.slots.length).map fun other =>
    if other = index then presentOf "payload" else absent

def factory (schema : Schema) (slot : Slot) (index : Nat) : Function where
  before :=
    let text := "Creates a value with only the `" ++ slot.key ++ "` slot occupied."
    Tree.seq [docAttribute (Quoted.literal text), schema.visibilityTrees]
  name := slot.method "from"
  binders := []
  receiver := .absent
  parameters := [⟨false, "payload", slot.payloadTrees⟩]
  trailing := false
  after := ["->", "Self"]
  body := callOf (Tree.words "Self :: new") (schema.soleArguments index)

def factories (schema : Schema) : List Function :=
  schema.slots.zipIdx.map fun (slot, index) => schema.factory slot index

/-! ### Accessors -/

def occupancyAccessor (schema : Schema) (slot : Slot) : Function where
  before :=
    let text := "Whether the `" ++ slot.key ++ "` slot is occupied."
    Tree.seq [docAttribute (Quoted.literal text), schema.visibilityTrees]
  name := slot.method "is"
  binders := []
  receiver := .shared
  parameters := []
  trailing := false
  after := ["->", "bool"]
  body := callOf (Tree.seq [slot.of "self", ".", "is_some"]) []

def payloadAccessor (schema : Schema) (slot : Slot) : Function where
  before :=
    let text := "The payload of the `" ++ slot.key ++ "` slot, if occupied."
    Tree.seq [docAttribute (Quoted.literal text), schema.visibilityTrees]
  name := slot.method "as"
  binders := []
  receiver := .shared
  parameters := []
  trailing := false
  after := Tree.seq ["->", optionalOf (Tree.seq ["&", slot.payloadTrees])]
  body := callOf (Tree.seq [slot.of "self", ".", "as_ref"]) []

def accessors (schema : Schema) : List Function :=
  schema.slots.flatMap fun slot => [schema.occupancyAccessor slot, schema.payloadAccessor slot]

/-! ### Dispatch -/

def outputBinder : Binder := ⟨"__Output", []⟩

def writtenDoc (lines : List String) : List Tree :=
  lines.flatMap fun line => docAttribute ("r\"" ++ line ++ "\"")

def handlerCall (kind : String) (slot : Slot) : List Tree :=
  callOf (hiddenPath kind) [Tree.seq ["&", slot.payloadTrees]]

def noVariantOccupied : List Tree := libraryPath "NoVariantOccupied"

def vacantFailure : List Tree :=
  failureOf (callOf (Tree.seq [noVariantOccupied, Tree.words ":: of :: < Self >"]) [])

/-- A dispatch with a handler for each slot. -/
def totalDispatch (schema : Schema) (name : String) (doc : List String) (binders : List Binder)
    (arrow success : List Tree) (found : Slot → List Tree) : Function where
  before := Tree.seq [writtenDoc doc, manyArguments, schema.visibilityTrees]
  name
  binders
  receiver := .shared
  parameters := schema.slots.map fun slot =>
    ⟨false, slot.method "on", Tree.seq ["impl", handlerCall "FnOnce" slot, arrow]⟩
  trailing := true
  after := Tree.seq ["->", resultOf success noVariantOccupied]
  body :=
    let checks := schema.slots.flatMap fun slot =>
      ifLet (presentOf "payload") (slot.borrowed "self") (found slot)
    Tree.seq [checks, vacantFailure]

/-- A dispatch with handlers for some slots and a default for all others. -/
def partialDispatch (schema : Schema) (name : String) (doc : List String) (binders : List Binder)
    (arrow found : List Tree) : Function where
  before := Tree.seq [writtenDoc doc, manyArguments, schema.visibilityTrees]
  name
  binders
  receiver := .shared
  parameters :=
    ⟨false, "default", Tree.seq ["impl", callOf (hiddenPath "FnOnce") [], arrow]⟩ ::
      schema.slots.map fun slot =>
        let handler := Tree.seq [Tree.words "& mut dyn", handlerCall "FnMut" slot, arrow]
        ⟨false, slot.method "on", optionalOf handler⟩
  trailing := true
  after := arrow
  body :=
    let checks := schema.slots.flatMap fun slot =>
      ifLet (pairOf (presentOf "payload") (presentOf "handler"))
        (pairOf (slot.borrowed "self") (slot.method "on")) found
    Tree.seq [checks, callOf "default" []]

def mapFunction (schema : Schema) : Function :=
  schema.totalDispatch "map"
    [ " Transforms the occupied slot with its handler.", "",
      " Fails with `NoVariantOccupied` if no slot is occupied." ]
    [outputBinder] (Tree.words "-> __Output") "__Output" fun slot =>
      Tree.seq ["return", successOf (callOf (slot.method "on") ["payload"]), ";"]

def visitFunction (schema : Schema) : Function :=
  schema.totalDispatch "visit"
    [" Runs the handler of the occupied slot.", "", " Fails if no slot is occupied."]
    [] [] [Tree.parens []] fun slot =>
      Tree.seq
        [ callOf (slot.method "on") ["payload"], ";", "return", successOf [Tree.parens []], ";" ]

def mapOrElseFunction (schema : Schema) : Function :=
  schema.partialDispatch "map_or_else"
    [ " Transforms the first slot that is occupied and has a handler, or computes",
      " `default` when there is no such slot." ]
    [outputBinder] (Tree.words "-> __Output")
    (Tree.seq ["return", callOf "handler" ["payload"], ";"])

def visitOrElseFunction (schema : Schema) : Function :=
  schema.partialDispatch "visit_or_else"
    [ " Runs the handler of the first slot that is occupied and has a handler, or",
      " `default` when there is no such slot." ]
    [] [] (Tree.seq [callOf "handler" ["payload"], ";", "return", ";"])

def dispatch (schema : Schema) : List Function :=
  [ schema.mapFunction, schema.visitFunction, schema.mapOrElseFunction,
    schema.visitOrElseFunction ]

end Schema

end SlotSum
