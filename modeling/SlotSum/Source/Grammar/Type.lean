import SlotSum.Source.Grammar.Path

/-!
Types. A trait object needs no keyword in front of it when a plus sign or a lifetime shows what it
is. A path behind an invisible group goes on with what is in the group.
-/

namespace SlotSum.Grammar

open Token (Look)
open Parse (peek peekWord peekMark peekGroup)

variable (rules : Rules)

/-- A trait object without its keyword, from its bounds. -/
def traitObject (bounds : Parse.Separated Bound) : Ty :=
  .composite .traitObject (boundNodes bounds)

/-- A list of bounds in which lifetimes are not alone. -/
def objectBounds (plus captures consts : Bool) : Parse (Parse.Separated Bound) := do
  let bounds ← boundList rules plus captures consts
  if bounds.elements.any fun bound => bound.kind = .trait || bound.kind = .verbatim then
    return bounds
  else
    Parse.fail (.refused "at least one trait is required for an object type")

def convention? : Parse (List Node) := do
  if ← Parse.word? "extern" then
    if ← peek Look.string then
      let (_, text) ← Parse.literal
      return Node.seq ["extern", text]
    else
      return "extern"
  else
    return []

/-- A parameter of a function type. One that is a bare `self` is kept as it was written. -/
def functionTypeInput (first : Bool) : Parse (List Node) := do
  let attributes ← outerAttributes rules
  let before := (← get).tokens
  let mutableSelf := first && (← peekWord "mut") && (← peek (Look.second (Look.word "self")))
  if mutableSelf then
    let _ ← Parse.word "mut"
  let named : Look := fun tokens =>
    (Look.identifier tokens || Look.word "_" tokens || (first && Look.word "self" tokens)) &&
      Look.second (Look.mark ":") tokens && !Look.second (Look.mark "::") tokens
  let name ←
    if ← peek named then do
      let name ← Parse.anyWord
      Parse.mark ":"
      pure (some name.text)
    else
      pure none
  if mutableSelf then
    match name with
    | some _ =>
      let _ ← rules.type .whole
    | none =>
      let _ ← Parse.word "self"
    let trees ← Parse.since before
    return attributes ++ [.raw trees]
  else
    let type ← rules.type .whole
    let name : List Node := match name with
      | some name => Node.seq [name, ":"]
      | none => []
    return Node.seq [attributes, name, type]

def variadicType : Parse (List Node) := do
  let attributes ← outerAttributes rules
  let name : List Node ←
    if ← peekMark "..." then pure []
    else do
      let name ← Parse.anyWord
      Parse.mark ":"
      pure (Node.seq [name.text, ":"])
  Parse.mark "..."
  let comma ← if ← Parse.isEmpty then pure [] else do
    Parse.mark ","
    pure [Node.word ","]
  return Node.seq [attributes, name, "...", comma]

/-- Dots stand here, after attributes and possibly a name. -/
def isVariadic : Look := fun tokens =>
  Look.mark "..." tokens ||
    ((Look.identifier tokens || Look.word "_" tokens) && Look.second (Look.mark ":") tokens &&
      Look.third (Look.mark "...") tokens)

/-- Parameters of a function type to the end of its parentheses. -/
def functionTypeInputs (first : Bool) : Nat → Parse (List Node)
  | 0 => Parse.expected "type"
  | turns + 1 => do
    if ← Parse.isEmpty then return []
    let ahead ← Parse.attempt do
      let start ← get
      let _ ← outerAttributes rules
      let found ← peek isVariadic
      set start
      return found
    if ahead.getD false then return ← variadicType rules
    let input ← functionTypeInput rules first
    if ← Parse.isEmpty then return input
    Parse.mark ","
    return Node.seq [input, ",", ← functionTypeInputs false turns]

def functionType (lifetimes : List Node) : Parse Ty := do
  let unsafety ← Parse.word? "unsafe"
  let convention ← convention?
  let _ ← Parse.word "fn"
  let inputs ← Parse.group .paren do functionTypeInputs rules true (← Parse.budget)
  let output ← returnType rules .withoutPlus
  let unsafety : List Node := if unsafety then "unsafe" else []
  return .composite .function
    (Node.seq [lifetimes, unsafety, convention, "fn", Node.group .paren inputs, output])

def objectFrom (first : List Node) : Parse Ty := do
  let rest ← Parse.many (peekMark "+") do
    Parse.mark "+"
    let bound ← bound rules false false
    return Node.seq ["+", bound.nodes]
  return .composite .traitObject (Node.seq [first, rest.flatten])

/-- What stands between parentheses. -/
inductive Enclosed where
  | done (type : Ty)
  | relaxed (bound : List Node)
  | one (type : Ty)

/-- The bound that a type in parentheses is when a plus sign follows. -/
def soleBound? : Ty → Option (List Node)
  | .path rooted segments => some [.group .paren (Path.mk rooted segments).nodes]
  | .composite .traitObject parts =>
    match parts with
    | .word "dyn" :: _ => none
    | _ =>
      let plain := parts.all fun part => match part with
        | .word "+" => false
        | _ => true
      if plain then some [.group .paren parts] else none
  | _ => none

def parenthesized (mode : TypeMode) : Parse Ty := do
  let enclosed ← Parse.group .paren do
    if ← Parse.isEmpty then return Enclosed.done (.tuple [] false)
    if ← peek Look.lifetime then
      let bounds ← objectBounds rules true false false
      return .done (.paren (traitObject bounds))
    if ← peekMark "?" then
      let (nodes, _) ← traitBound rules false
      return .relaxed [.group .paren nodes]
    let first ← rules.type .whole
    if ← Parse.mark? "," then
      let rest ← Parse.separated "," (rules.type .whole)
      return .done (.tuple (first :: rest.elements) (rest.elements.isEmpty || rest.trailing))
    return .one first
  match enclosed with
  | .done type => return type
  | .relaxed bound => objectFrom rules bound
  | .one first =>
    if mode.plus && (← peekMark "+") then
      match soleBound? first with
      | some bound => objectFrom rules bound
      | none => return .paren first
    else
      return .paren first

/-- A type that begins with a name: a path, a macro call or a trait object. -/
def namedType (mode : TypeMode) (lifetimes : List Node) : Parse Ty := do
  let type ← qualifiedPath rules false
  if type.isQualified then return type
  if (← peekMark "!") && !(← peekMark "!=") && type.isPlainPath then
    Parse.mark "!"
    let (delimiter, tokens, _) ← Parse.rawGroup
    return .composite .macroCall
      (Node.seq [type.pathNodes, "!", Node.raw [.group delimiter (Token.trees tokens)]])
  if !lifetimes.isEmpty || (mode.plus && (← peekMark "+")) then
    let first : Bound := ⟨lifetimes ++ type.pathNodes, .trait⟩
    let bounds ←
      if mode.plus then moreBounds rules first false false else pure ⟨[first], false⟩
    return traitObject bounds
  return type

/-- Words that begin a path although they are keywords. -/
def pathStart : Look := fun tokens =>
  Look.identifier tokens || pathKeyword ["super", "self", "Self", "crate"] tokens

/-- A type that does not begin with an invisible group. -/
def visibleType (mode : TypeMode) : Parse Ty := do
  let before := (← get).tokens
  let lifetimes ← boundLifetimes? rules
  if !lifetimes.isEmpty then
    let goesOn : Look := fun tokens =>
      pathStart tokens || ["fn", "unsafe", "extern"].any fun word => Look.word word tokens
    unless ← peek goesOn do Parse.expected "type"
  if ← peekGroup .paren then parenthesized rules mode
  else if ← peek (pathKeyword ["fn", "unsafe", "extern"]) then functionType rules lifetimes
  else if (← peek pathStart) || (← peekMark "::") || (← peekMark "<") then
    namedType rules mode lifetimes
  else if ← Parse.word? "dyn" then
    let star ← Parse.mark? "*"
    let bounds ← objectBounds rules mode.plus false false
    if star then
      let trees ← Parse.since before
      return .composite .verbatim [.raw trees]
    else
      return .composite .traitObject (Node.seq ["dyn", boundNodes bounds])
  else if ← peekGroup .bracket then
    Parse.group .bracket do
      let inner ← rules.type .whole
      if ← Parse.mark? ";" then
        return .array inner (← rules.expression true).nodes
      else
        return .slice inner
  else if ← peekMark "*" then
    Parse.mark "*"
    let mutable ← if ← Parse.word? "mut" then pure true else do
      let _ ← Parse.word "const"
      pure false
    let inner ← rules.type .withoutPlus
    return .composite .pointer (Node.seq ["*", if mutable then "mut" else "const", inner])
  else if ← Parse.mark? "&" then
    let lifetime ← Parse.lifetime?
    let mutable ← Parse.word? "mut"
    return .reference lifetime mutable (← rules.type .withoutPlus)
  else if (← peekMark "!") && !(← peekMark "=") then
    Parse.mark "!"
    return .never
  else if ← Parse.word? "impl" then
    let bounds ← objectBounds rules mode.plus true true
    return .composite .existential (Node.seq ["impl", boundNodes bounds])
  else if ← Parse.word? "_" then
    return .composite .inferred ["_"]
  else if ← peek Look.lifetime then
    return traitObject (← objectBounds rules true false false)
  else
    Parse.expected "type"

/-- Arguments put on the last segment of a path, if it has none yet. -/
def withLastArguments (arguments : Arguments) : List Segment → List Segment
  | [] => []
  | [last] => [last.withArguments arguments]
  | first :: rest => first :: withLastArguments arguments rest

/-- The last segment of a path type takes arguments. -/
def lastIsBare : Ty → Bool
  | .path _ segments => segments.getLast?.any fun last => last.arguments.isNone
  | .projection _ _ _ _ rest => rest.getLast?.any fun last => last.arguments.isNone
  | _ => false

def isPathType : Ty → Bool
  | .path .. => true
  | .projection .. => true
  | _ => false

def withArguments (arguments : Arguments) : Ty → Ty
  | .path rooted segments => .path rooted (withLastArguments arguments segments)
  | .projection subject qualified rooted owner rest =>
    .projection subject qualified rooted owner (withLastArguments arguments rest)
  | other => other

/-- A type from an invisible group, with the path that goes on behind it. -/
def groupedType (mode : TypeMode) : Parse Ty := do
  let inner ← Parse.invisibleGroup (rules.type .whole)
  if (← peekMark "::") && (← peek (Look.third Look.anyWord)) then
    if isPathType inner then
      return inner.extend (← moreSegments rules false)
    else
      let rest ← path rules false
      return .projection inner false true [] rest.segments
  else if ((← peekMark "<") && mode.groupArguments) ||
      ((← peekMark "::") && (← peek (Look.third (Look.mark "<")))) then
    if isPathType inner && lastIsBare inner then
      let arguments ← rules.arguments
      return (withArguments arguments inner).extend (← moreSegments rules false)
    else
      return .group inner
  else
    return .group inner

def type (mode : TypeMode) : Parse Ty := do
  if ← peek Look.invisible then groupedType rules mode else visibleType rules mode

end SlotSum.Grammar
