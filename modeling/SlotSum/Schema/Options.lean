import SlotSum.Schema.Diagnostic
import SlotSum.Source.Reader
import SlotSum.Source.Strip

/-!
Options of declarations and fields: words with commas between them and possibly one at the end, no
word twice.
-/

namespace SlotSum

open Token (Look)

def optionAt? (choices : List String) (tokens : List Token) : Option String :=
  choices.find? fun choice => Look.word choice tokens

/-- Options to the end of the list, each of `choices` at most once; `seen` have been read. -/
def optionWordsLoop (choices : List String) : List String → Nat → Parse (List Name)
  | _, 0 => Parse.fail (.expected [])
  | seen, turns + 1 => do
    if ← Parse.isEmpty then return []
    match optionAt? choices (← get).tokens with
    | none => Parse.fail (.expected (choices.map fun choice => "`" ++ choice ++ "`"))
    | some choice =>
      let name ← Parse.word choice
      if seen.contains choice then
        throw ⟨.repeated choice, false, name.span⟩
      if ← Parse.isEmpty then return [name]
      Parse.mark ","
      return name :: (← optionWordsLoop choices (choice :: seen) turns)

def optionWords (choices : List String) : Parse (List Name) := do
  optionWordsLoop choices [] (← Parse.budget)

/-- What is asked of an expansion beyond what is always there. -/
structure Options where
  serde : Bool
  eq : Bool
  noHash : Bool
  deriving DecidableEq, Repr, Inhabited

namespace Options

def default : Options := ⟨false, false, false⟩

def names : List String := ["serde", "eq", "no_hash"]

def ofWords (words : List Name) : Options :=
  let has (name : String) := words.any fun word => word.text == name
  ⟨has "serde", has "eq", has "no_hash"⟩

def parse : Parse Options := return ofWords (← optionWords names)

/-- Hashing is implemented unless it is declined. -/
def hash (options : Options) : Bool := !options.noHash

def read (tokens : List Token) : Checked Options :=
  match Parse.run parse tokens with
  | .ok options => .ok options
  | .error fault => .error [.ofFault fault]

end Options

namespace AttributeHead

def shownPath (head : AttributeHead) : String :=
  let names := "::".intercalate (head.path.map Name.text)
  if head.rooted then "::" ++ names else names

def pathSpan (head : AttributeHead) : Span :=
  match head.path.head?, head.path.getLast? with
  | some first, some last => first.span.through last.span
  | _, _ => head.span

def readArguments (head : AttributeHead) (production : Parse α) : Checked α :=
  match head.argument with
  | .absent => .error [⟨.bareAttribute head.shownPath, head.pathSpan⟩]
  | .value equals => .error [⟨.assignedAttribute head.shownPath, equals⟩]
  | .list _ tokens closing =>
    match Parse.inside tokens closing production { tokens, scope := closing, last := closing } with
    | .ok (value, _) => .ok value
    | .error fault => .error [.ofFault fault]

/-- The options that an attribute of a declaration carries, whatever its path. -/
def options (head : AttributeHead) : Checked Options :=
  match head.argument with
  | .absent => .ok .default
  | .value _ => .error [⟨.assignedOptions, head.metaSpan⟩]
  | .list .. => head.readArguments Options.parse

end AttributeHead

def attributesNamed (name : String) (attributes : List Node) : List AttributeHead :=
  (attributes.filterMap Node.head?).filter fun head => head.isNamed name

/-- Whether the option attributes of a field, of which `skip` has been seen or not, opt it out. -/
def skipsFrom (seen : Bool) : List AttributeHead → Checked Bool
  | [] => .ok seen
  | head :: rest =>
    match head.readArguments (optionWords ["skip"]) with
    | .error diagnostics => .error diagnostics
    | .ok [] => skipsFrom seen rest
    | .ok (word :: _) =>
      if seen then .error [.ofFault ⟨.repeated word.text, false, word.span⟩]
      else skipsFrom true rest

/-- Whether a field is opted out of being a slot. -/
def skips (attributes : List Node) : Checked Bool :=
  skipsFrom false (attributesNamed optionName attributes)

structure Derived where
  path : Path
  span : Span
  deriving Inhabited

namespace Derived

def trees (derived : Derived) : List Tree := Node.treesAll derived.path.nodes

/-- The last segment names the trait. -/
def trait? (derived : Derived) : Option String :=
  derived.path.segments.getLast?.map Segment.name

end Derived

def derivedList (tokens : List Token) : Parse (List Derived) := do
  let rules := Rules.level (Source.depth tokens)
  let paths ← Parse.separated "," (Parse.spanned (Grammar.path rules false))
  return paths.elements.map fun (path, span) => ⟨path, span⟩

def derivedOf (head : AttributeHead) : Checked (List Derived) :=
  let tokens := match head.argument with
    | .list _ tokens _ => tokens
    | _ => []
  head.readArguments (derivedList tokens)

def derivedPaths (attributes : List Node) : Checked (List Derived) := do
  let lists ← (attributesNamed "derive" attributes).mapM derivedOf
  return lists.flatten

end SlotSum
