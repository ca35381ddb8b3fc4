import SlotSum.Source.Grammar.Type
import SlotSum.Source.Grammar.Pattern
import SlotSum.Source.Item

/-!
The parts that declarations share: visibility, generic parameters and where clauses, fields, and
the signatures of functions.
-/

namespace SlotSum.Grammar

open Token (Look)
open Parse (peek peekWord peekMark peekGroup)

variable (rules : Rules)

/-- Who may use an item. An empty invisible group stands for nothing written. Parentheses that do
not hold a place belong to what follows. -/
def visibility : Parse Visibility := do
  if let .group .invisible [] opening closing :: rest := (← get).tokens then
    Parse.advance (.group .invisible [] opening closing) rest
    return .inherited
  unless ← Parse.word? "pub" do return .inherited
  unless ← peekGroup .paren do return .pub
  let place ← Parse.attempt do
    Parse.group .paren do
      if ← Parse.word? "in" then
        return Node.seq ["in", moduleNodes (← modulePath)]
      else if ← peek (pathKeyword ["crate", "self", "super"]) then
        return [Node.word (← Parse.anyWord).text]
      else
        Parse.expected "visibility"
  match place with
  | some parts => return .restricted parts
  | none => return .pub

/-! ### Generic parameters -/

def lifetimeBounds (stop : Look) : Parse (List Node) := do
  let bounds ← Parse.chain "+" (peek stop) Parse.lifetime
  return bounds.nodes "+" fun name => name

def genericParam : Parse GenericParam := do
  let attributes ← outerAttributes rules
  if ← peek Look.lifetime then
    let name ← Parse.lifetime
    let bounds ← if ← Parse.mark? ":" then
        lifetimeBounds fun tokens => tokens.isEmpty || Look.mark "," tokens || Look.mark ">" tokens
      else pure []
    return .lifetime attributes name bounds
  else if ← peek Look.identifier then
    let name ← Parse.identifier
    let bounds ← if ← Parse.mark? ":" then do
        let bounds ← boundsUntil rules fun tokens =>
          tokens.isEmpty || ["," , ">", "="].any fun operator => Look.mark operator tokens
        pure (boundNodes bounds)
      else pure []
    let default : List Node ← if ← Parse.mark? "=" then do
        let type ← rules.type .whole
        pure [Node.type type]
      else pure []
    return .type attributes name.text bounds default
  else if ← Parse.word? "const" then
    let name ← Parse.identifier
    Parse.mark ":"
    let type ← rules.type .whole
    let default ← if ← Parse.mark? "=" then constArgument rules else pure []
    return .const attributes name.text type default
  else if ← peekWord "_" then
    let name ← Parse.anyWord
    return .type attributes name.text [] []
  else
    Parse.expected "generic parameter"

def genericParams : Parse Generics := do
  unless ← peekMark "<" do return .empty
  Parse.mark "<"
  let params ← Parse.separatedUntil "," (peekMark ">") (genericParam rules)
  Parse.mark ">"
  return { Generics.empty with params := params.elements, trailing := params.trailing }

/-- What ends a predicate of a where clause. -/
def endsPredicate : Look := fun tokens =>
  tokens.isEmpty || Look.group .brace tokens || Look.mark "," tokens || Look.mark ";" tokens ||
    (Look.mark ":" tokens && !Look.mark "::" tokens) || Look.mark "=" tokens

def predicate : Parse (List Node) := do
  if (← peek Look.lifetime) && (← peek (Look.second (Look.mark ":"))) then
    let name ← Parse.lifetime
    Parse.mark ":"
    return Node.seq [name, ":", ← lifetimeBounds endsPredicate]
  else
    let lifetimes ← boundLifetimes? rules
    let type ← rules.type .whole
    Parse.mark ":"
    let bounds ← boundsUntil rules endsPredicate
    return Node.seq [lifetimes, type, ":", boundNodes bounds]

def whereClause? : Parse (Option (Parse.Separated (List Node))) := do
  unless ← Parse.word? "where" do return none
  some <$> Parse.chain "," (peek endsPredicate) (predicate rules)

def withWhere (generics : Generics) : Parse Generics := do
  match ← whereClause? rules with
  | some found =>
    return { generics with predicates := found.elements, predicatesTrailing := found.trailing }
  | none => return generics

/-! ### Fields -/

/-- A field with a name. The name may be left open; the type of such a field may be a structure or
union written in place, which is kept as it was written. -/
def namedField : Parse Field := do
  let attributes ← outerAttributes rules
  let visibility ← visibility
  let unnamed ← peekWord "_"
  let name ← if unnamed then Parse.anyWord else Parse.identifier
  Parse.mark ":"
  let inPlace := unnamed && ((← peekWord "struct") ||
    ((← peekWord "union") && (← peek (Look.second (Look.group .brace)))))
  if inPlace then
    let before := (← get).tokens
    let _ ← Parse.anyWord
    match Token.front (← get).tokens with
    | .group .brace inner opening closing :: rest =>
      Parse.advance (.group .brace inner opening closing) rest
      let trees ← Parse.since before
      return ⟨attributes, visibility, some name, .composite .verbatim [.raw trees]⟩
    | _ => Parse.expected "curly braces"
  else
    return ⟨attributes, visibility, some name, ← rules.type .whole⟩

def positionalField : Parse Field := do
  let attributes ← outerAttributes rules
  let visibility ← visibility
  return ⟨attributes, visibility, none, ← rules.type .whole⟩

def namedFields : Parse Fields := do
  let fields ← Parse.group .brace (Parse.separated "," (namedField rules))
  return .named fields.elements fields.trailing

def positionalFields : Parse Fields := do
  let fields ← Parse.group .paren (Parse.separated "," (positionalField rules))
  return .positional fields.elements fields.trailing

def structRest (attributes : List Node) (visibility : Visibility) : Parse StructItem := do
  let _ ← Parse.word "struct"
  let name ← Parse.identifier
  let generics ← genericParams rules
  let hasWhere ← peekWord "where"
  let generics ← withWhere rules generics
  if !hasWhere && (← peekGroup .paren) then
    let fields ← positionalFields rules
    let generics ← withWhere rules generics
    Parse.mark ";"
    return ⟨attributes, visibility, name, generics, fields⟩
  else if ← peekGroup .brace then
    return ⟨attributes, visibility, name, generics, ← namedFields rules⟩
  else
    Parse.mark ";"
    return ⟨attributes, visibility, name, generics, .unit⟩

/-! ### Functions -/

/-- The value that a method is called on. Its type is meant even where it is not written. -/
def receiver (attributes : List Node) : Parse Input := do
  let reference ← Parse.mark? "&"
  let lifetime ← if reference then Parse.lifetime? else pure none
  let mutable ← Parse.word? "mut"
  let _ ← Parse.word "self"
  let lifetimeNodes : List Node := match lifetime with
    | some name => name
    | none => []
  let head := Node.seq
    [ attributes, if reference then Node.seq ["&", lifetimeNodes] else [],
      if mutable then "mut" else [], "self" ]
  let own : Ty := .path false [.mk "Self" .none]
  if reference then
    return .receiver (head ++ [.implied (.reference lifetime mutable own)])
  else if ← Parse.mark? ":" then
    return .receiver (Node.seq [head, ":", ← rules.type .whole])
  else
    return .receiver (head ++ [.implied own])

/-- The parameters of a function, and the dots that stand for further ones. -/
structure Inputs where
  inputs : List Input
  trailing : Bool
  variadic : List Node

def Inputs.cons (input : Input) (rest : Inputs) : Inputs :=
  { rest with inputs := input :: rest.inputs }

def variadicInput (before : List Node) : Parse Inputs := do
  Parse.mark "..."
  let comma : List Node ← if ← Parse.isEmpty then pure [] else do
    Parse.mark ","
    pure [Node.word ","]
  return ⟨[], true, Node.seq [before, "...", comma]⟩

def inputsLoop (first : Bool) : Nat → Parse Inputs
  | 0 => Parse.expected "parameter"
  | turns + 1 => do
    if ← Parse.isEmpty then return ⟨[], true, []⟩
    let attributes ← outerAttributes rules
    if ← peekMark "..." then return ← variadicInput attributes
    let goOn (input : Input) : Parse Inputs := do
      if ← Parse.isEmpty then return ⟨[input], false, []⟩
      Parse.mark ","
      return Inputs.cons input (← inputsLoop false turns)
    match ← Parse.attempt (receiver rules attributes) with
    | some input =>
      unless first do Parse.fail (.refused "unexpected method receiver")
      goOn input
    | none =>
      if (← peek Look.identifier) && (← peek (Look.second (Look.mark "<"))) then
        goOn (.typed attributes "_" (← rules.type .whole))
      else
        let pattern ← rules.pattern
        Parse.mark ":"
        if ← peekMark "..." then variadicInput (Node.seq [attributes, pattern.nodes, ":"])
        else goOn (.typed attributes pattern.nodes (← rules.type .whole))

def qualifiers (safe : Bool) : Parse (List Node) := do
  let constant ← Parse.word? "const"
  let asynchronous ← Parse.word? "async"
  let trusted ← if safe then Parse.word? "safe" else pure false
  let unsafety ← if trusted then pure false else Parse.word? "unsafe"
  let convention ← convention?
  return Node.seq
    [ if constant then "const" else [], if asynchronous then "async" else [],
      if trusted then "safe" else [], if unsafety then "unsafe" else [], convention ]

def beginsFunction (safe : Bool) : Parse Bool := do
  let found ← Parse.attempt do
    let start ← get
    let _ ← qualifiers safe
    let found ← peekWord "fn"
    set start
    return found
  return found.getD false

def signature (safe : Bool) : Parse Signature := do
  let (parts, span) ← Parse.spanned do
    let qualifiers ← qualifiers safe
    let _ ← Parse.word "fn"
    let name ← Parse.identifier
    let generics ← genericParams rules
    let inputs ← Parse.group .paren do inputsLoop rules true (← Parse.budget)
    let output ← returnType rules .whole
    pure (qualifiers, name, generics, inputs, output)
  let (qualifiers, name, generics, inputs, output) := parts
  let (generics, whereSpan) ← Parse.spanned (withWhere rules generics)
  let span := if generics.predicates.isEmpty then span else span.through whereSpan
  let trailing := inputs.trailing && !inputs.inputs.isEmpty
  return { qualifiers, name, generics, inputs := inputs.inputs, trailing, span, output,
           variadic := inputs.variadic }

end SlotSum.Grammar
