import SlotSum.Expansion.Assembly
import SlotSum.Source.Reader
import SlotSum.Token.Lexer

/-!
Expanding declarations. The options of a declaration stand either next to it or, within a block, on
the declaration itself; a block also holds the implementations that the expansion has to respect.
-/

namespace SlotSum

/-- Why a text has no expansion. -/
inductive Failure where
  /-- The text is not made of tokens. -/
  | unlexed
  /-- The tokens are no declaration. -/
  | unparsed (fault : Fault)
  /-- The declaration is not acceptable. -/
  | rejected (diagnostics : List Diagnostic)
  deriving Inhabited

abbrev Attempt (α : Type) := Except Failure α

namespace Attempt

def lexed (text : String) : Attempt (List Token) :=
  (Token.lex text).mapError fun _ => .unlexed

def parsed (result : Except Fault α) : Attempt α := result.mapError .unparsed

def checked (result : Checked α) : Attempt α := result.mapError .rejected

end Attempt

namespace Item

/-- What an expansion keeps of an item: everything but its options. -/
def strippedTrees (item : Item) : List Tree := Node.treesAll (Node.stripAll item.nodes)

/-- The structure, or where the item is that is none. -/
def asStruct : Item → Except Span StructItem
  | .struct item => .ok item
  | .impl item => .error item.span
  | .other _ span => .error span

def struct? : Item → Option StructItem
  | .struct item => some item
  | _ => none

end Item

/-- What is added to a declaration; nothing if it has no slots. -/
def synthesize (declaration : Declaration) (options : Options) : Checked (List Tree) :=
  match Schema.extract declaration with
  | .error diagnostics => .error diagnostics
  | .ok none => .ok []
  | .ok (some schema) =>
    match Plan.analyze schema options with
    | .error diagnostics => .error diagnostics
    | .ok plan => .ok (schema.expansion plan).trees

def expandItem (options item : List Token) : Attempt (List Tree) := do
  let options ← Attempt.checked (Options.read options)
  let item ← Attempt.parsed (Source.item item)
  match item.asStruct with
  | .error span => throw (.rejected [⟨.notAStruct, span⟩])
  | .ok declared =>
    let added ← Attempt.checked (synthesize (.ofStruct declared) options)
    return item.strippedTrees ++ added

def soleStruct (items : List Item) : Checked StructItem :=
  match items.filterMap Item.struct? with
  | [] => .error [⟨.noStruct, .callSite⟩]
  | [item] => .ok item
  | _ :: extra :: _ => .error [⟨.secondStruct, extra.name.span⟩]

/-- The options on a structure, which may stand on it once. -/
def blockOptions (item : StructItem) : Checked Options :=
  match attributesNamed optionName item.attributes with
  | [] => .ok .default
  | first :: rest =>
    match first.options with
    | .error diagnostics => .error diagnostics
    | .ok options =>
      match rest with
      | [] => .ok options
      | extra :: _ => .error [⟨.repeatedOptions, extra.span⟩]

/-- Expands the structure of a block; the expansion follows all items of the block. -/
def expandItems (items : List Item) : Checked (List Tree) := do
  let item ← soleStruct items
  let options ← blockOptions item
  let added ← synthesize (.ofItems item items) options
  return items.flatMap Item.strippedTrees ++ added

def expandBlock (block : List Token) : Attempt (List Tree) := do
  let items ← Attempt.parsed (Source.items block)
  Attempt.checked (expandItems items)

def expandItemText (options item : String) : Attempt String := do
  let options ← Attempt.lexed options
  let item ← Attempt.lexed item
  return Tree.renderAll (← expandItem options item)

def expandBlockText (block : String) : Attempt String := do
  return Tree.renderAll (← expandBlock (← Attempt.lexed block))

end SlotSum
