import SlotSum.Expand
import SlotSum.Payload.Overlap

/-!
Looking at declarations, types and names without expanding them: what each stage of an expansion
makes of a text.
-/

namespace SlotSum

/-! ### Declarations -/

/-- What the first structure among some items turns out to be. -/
inductive Finding where
  | noStruct
  | slotless
  | slots (schema : Schema) (plan : Checked Plan)

/-- Analyzes the first structure with the implementations that it owns. -/
def Finding.ofItems (options : Options) (items : List Item) : Checked Finding :=
  match items.filterMap Item.struct? with
  | [] => .ok .noStruct
  | item :: _ =>
    match Schema.extract (.ofItems item items) with
    | .error diagnostics => .error diagnostics
    | .ok none => .ok .slotless
    | .ok (some schema) => .ok (.slots schema (Plan.analyze schema options))

def inspectItems (options items : String) : Attempt Finding := do
  let options ← Attempt.lexed options
  let items ← Attempt.lexed items
  let options ← Attempt.checked (Options.read options)
  let items ← Attempt.parsed (Source.items items)
  Attempt.checked (Finding.ofItems options items)

/-- A piece of an expansion: what one request adds, the frame without any, or all of it. -/
inductive Piece where
  | request (request : Request)
  | frame
  | whole
  deriving DecidableEq, Repr

namespace Piece

def ofName (name : String) : Option Piece :=
  if name = "Empty" then some .frame
  else if name = "All" then some .whole
  else (Request.all.find? fun request => request.name == name).map .request

def trees (schema : Schema) (plan : Plan) : Piece → List Tree
  | request asked => (schema.part plan asked).trees
  | frame => (schema.expansionFor plan []).trees
  | whole => (schema.expansion plan).trees

end Piece

def Finding.piece (finding : Finding) (piece : Piece) : Attempt (Option String) :=
  match finding with
  | .noStruct => .ok none
  | .slotless => .ok none
  | .slots schema plan => do
    let plan ← Attempt.checked plan
    return some (Tree.renderAll (piece.trees schema plan))

def stripText (item : String) : Attempt String := do
  let item ← Attempt.parsed (Source.item (← Attempt.lexed item))
  return Tree.renderAll item.strippedTrees

/-! ### Options -/

def readOptions (options : String) : Attempt Options := do
  Attempt.checked (Options.read (← Attempt.lexed options))

/-- What a list of attributes means on a declaration, on a field, and as derives. -/
structure AttributeMeaning where
  options : List (Checked Options)
  skips : Checked Bool
  derives : Checked (List Derived)

def readAttributes (attributes : String) : Attempt AttributeMeaning := do
  let nodes ← Attempt.parsed (Source.attributes (← Attempt.lexed attributes))
  return {
    options := (nodes.filterMap Node.head?).map AttributeHead.options
    skips := skips nodes
    derives := derivedPaths nodes }

/-! ### Types -/

def readType (type : String) : Attempt Ty := do
  Attempt.parsed (Source.type (← Attempt.lexed type))

def readWord (word : String) : Attempt Name := do
  Attempt.parsed (Source.word (← Attempt.lexed word))

def readParams (params : List String) : Attempt (List String) := do
  return (← params.mapM readWord).map Name.text

/-- For each type, with which of the types it may coincide. -/
def overlapRows (params : List String) (types : List Ty) : List (List Bool) :=
  types.map fun first => types.map fun second => Ty.overlaps params first second

end SlotSum
