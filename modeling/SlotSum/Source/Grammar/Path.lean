import SlotSum.Source.Grammar.Rules

/-!
Paths, their arguments, and the bounds that are made of them. In an expression the arguments of a
segment need a double colon before their bracket; in a type they do not.
-/

namespace SlotSum

open Token (Look)
open Parse (peek peekWord peekMark peekGroup)

/-- A path without a qualified owner. -/
structure Path where
  rooted : Bool
  segments : List Segment
  deriving Inhabited

/-- Elements with separators between them, as they print. -/
def Parse.Separated.nodes (separated : Parse.Separated α) (separator : String)
    (parts : α → List Node) : List Node :=
  (withCommas separated.trailing separated.elements).flatMap fun (element, marked) =>
    if marked then parts element ++ [.word separator] else parts element

namespace Segment

def nodes : Segment → List Node
  | mk name .none => name
  | mk name arguments => [.word name, .arguments arguments]

def nodesAll (segments : List Segment) : List Node :=
  (segments.map nodes).intersperse [.word "::"] |>.flatten

def isPlain (segment : Segment) : Bool := segment.arguments.isNone

end Segment

namespace Path

def nodes (path : Path) : List Node :=
  Node.seq [if path.rooted then "::" else [], Segment.nodesAll path.segments]

def type (path : Path) : Ty := .path path.rooted path.segments

def isPlain (path : Path) : Bool := path.segments.all Segment.isPlain

end Path

namespace Ty

/-- A path type as part of an expression or pattern, where it names no type. -/
def pathNodes : Ty → List Node
  | .path rooted segments => (Path.mk rooted segments).nodes
  | .projection subject qualified rooted owner rest =>
    Node.seq
      [ "<", subject,
        if qualified then Node.seq ["as", (Path.mk rooted owner).nodes] else [],
        ">", "::", Segment.nodesAll rest ]
  | other => other

def isQualified : Ty → Bool
  | .projection .. => true
  | _ => false

def isPlainPath : Ty → Bool
  | .path _ segments => segments.all Segment.isPlain
  | _ => false

def extend (segments : List Segment) : Ty → Ty
  | .path rooted own => .path rooted (own ++ segments)
  | .projection subject qualified rooted owner rest =>
    .projection subject qualified rooted owner (rest ++ segments)
  | other => other

end Ty

namespace Grammar

variable (rules : Rules)

/-! ### Paths -/

/-- Words that are keywords and yet stand as segments of a path. -/
def pathKeyword (words : List String) : Look := fun tokens =>
  words.any fun word => Look.word word tokens

def modulePath : Parse (Bool × List Name) := do
  let rooted ← Parse.mark? "::"
  let starts : Look := fun tokens =>
    Look.identifier tokens || pathKeyword ["super", "self", "Self", "crate"] tokens
  let first ← if ← peek starts then Parse.anyWord else Parse.identifier
  let others ← Parse.many (peekMark "::") do
    Parse.mark "::"
    if ← peek starts then Parse.anyWord else Parse.expected "path segment after `::`"
  return (rooted, first :: others)

def moduleNodes (path : Bool × List Name) : List Node :=
  (Path.mk path.1 (path.2.map fun name => .mk name.text .none)).nodes

def segment (inExpression : Bool) : Parse Segment := do
  if ← peek (pathKeyword ["super", "self", "crate", "try"]) then
    return .mk (← Parse.anyWord).text .none
  let name ← if ← peekWord "Self" then Parse.anyWord else Parse.identifier
  let bracket : Look := fun tokens =>
    Look.mark "<" tokens && !Look.mark "<=" tokens && !Look.mark "<<=" tokens
  let direct ← if inExpression then pure false else peek bracket
  let turbofish := (← peekMark "::") && (← peek (Look.third (Look.mark "<")))
  if direct || turbofish then return .mk name.text (← rules.arguments)
  else return .mk name.text .none

/-- Further segments, each after a double colon; parentheses after one end the path. -/
def moreSegments (inExpression : Bool) : Parse (List Segment) :=
  Parse.many
    (do return (← peekMark "::") && !(← peek (Look.third (Look.group .paren))))
    (do
      Parse.mark "::"
      segment rules inExpression)

def path (inExpression : Bool) : Parse Path := do
  let rooted ← Parse.mark? "::"
  let first ← segment rules inExpression
  return ⟨rooted, first :: (← moreSegments rules inExpression)⟩

def qualifiedPath (inExpression : Bool) : Parse Ty := do
  if ← peekMark "<" then
    Parse.mark "<"
    let subject ← rules.type .whole
    let owner ← if ← Parse.word? "as" then some <$> path rules false else pure none
    Parse.mark ">"
    Parse.mark "::"
    let first ← segment rules inExpression
    let others ← Parse.many (peekMark "::") do
      Parse.mark "::"
      segment rules inExpression
    match owner with
    | some owner => return .projection subject true owner.rooted owner.segments (first :: others)
    | none => return .projection subject false true [] (first :: others)
  else
    return (← path rules inExpression).type

/-! ### Attributes and blocks -/

/-- The expression of an attribute is a literal or anything else but an attribute. -/
def attributeValue : Parse (List Node) := do
  let literal ← Parse.attempt do
    let (negative, text) ← Parse.literal
    unless ← Parse.isEmpty do Parse.expected "end of attribute"
    return Node.literal [] negative text
  match literal with
  | some node => return [node]
  | none =>
    if (← peekMark "#") && (← peek (Look.second (Look.group .bracket))) then
      Parse.fail (.refused "unexpected attribute inside of attribute")
    return (← rules.expression true).nodes

/-- What stands between the brackets of an attribute. -/
def attributeBody : Parse (Bool × List Name × AttributeArgument × List Node) := do
  let (rooted, path) ←
    if ← peekWord "unsafe" then do
      let name ← Parse.anyWord
      pure (false, [name])
    else modulePath
  let opens : Look := fun tokens =>
    [Delimiter.paren, .bracket, .brace].any fun delimiter => Look.group delimiter tokens
  if ← peek opens then
    let (delimiter, tokens, closing) ← Parse.rawGroup
    return (rooted, path, .list delimiter tokens closing, [])
  else if ← peekMark "=" then
    let equals := Parse.Cursor.here (← get)
    Parse.mark "="
    return (rooted, path, .value equals, ← attributeValue rules)
  else
    return (rooted, path, .absent, [])

/-- An attribute, with an exclamation mark if it is an inner one. -/
def attributeNode (inner : Bool) : Parse Node := do
  let (found, span) ← Parse.spanned do
    Parse.mark "#"
    if inner then Parse.mark "!"
    Parse.group .bracket (Parse.spanned (attributeBody rules))
  let ((rooted, path, argument, value), metaSpan) := found
  return .attribute ⟨inner, rooted, path, argument, metaSpan, span⟩ value

def outerAttributes : Parse (List Node) :=
  Parse.many (peekMark "#") (attributeNode rules false)

def innerAttributes : Parse (List Node) :=
  Parse.many (do return (← peekMark "#") && (← peek (Look.second (Look.mark "!"))))
    (attributeNode rules true)

def block : Parse Node := do
  let statements ← Parse.group .brace rules.statements
  return .group .brace statements

/-- A block that may begin with attributes of its own. -/
def blockWithAttributes : Parse Node := do
  let contents ← Parse.group .brace do
    let attributes ← innerAttributes rules
    let statements ← rules.statements
    return attributes ++ statements
  return .group .brace contents

def constArgument : Parse (List Node) := do
  if ← peek Look.literal then
    let (negative, text) ← Parse.literal
    return Node.literal [] negative text
  else if ← peek Look.identifier then
    return (← Parse.identifier).text
  else if ← peekGroup .brace then
    return ← blockWithAttributes rules
  else
    Parse.expected "constant argument"

/-! ### Bounds -/

def returnType (mode : TypeMode) : Parse (List Node) := do
  if ← Parse.mark? "->" then return Node.seq ["->", ← rules.type mode] else return []

def roundArguments : Parse Arguments := do
  let inputs ← Parse.group .paren (Parse.separated "," (rules.type .whole))
  let output ← returnType rules .withoutPlus
  return .round (Node.group .paren (inputs.nodes "," fun type => type) :: output)

/-- The lifetimes that a `for` binds. -/
def boundLifetimes : Parse (List Node) := do
  let _ ← Parse.word "for"
  Parse.mark "<"
  let lifetimes ← Parse.separatedUntil "," (peekMark ">") do
    let attributes ← outerAttributes rules
    let name ← Parse.lifetime
    return attributes ++ [Node.word name]
  Parse.mark ">"
  return Node.seq ["for", "<", lifetimes.nodes "," id, ">"]

def boundLifetimes? : Parse (List Node) := do
  if ← peekWord "for" then boundLifetimes rules else return []

/-- What a bound is, as far as lists of bounds ask. -/
inductive BoundKind where
  | lifetime
  | trait
  | capture
  | verbatim
  deriving DecidableEq

structure Bound where
  nodes : List Node
  kind : BoundKind

/-- `use<…>`: the parameters that an existential type may depend on. -/
def preciseCapture : Parse (List Node) := do
  let _ ← Parse.word "use"
  Parse.mark "<"
  let params ← Parse.separatedUntil "," (peekMark ">") do
    if ← peek Look.lifetime then Parse.lifetime else return (← Parse.anyWord).text
  Parse.mark ">"
  return Node.seq ["use", "<", params.nodes "," fun text => text, ">"]

/-- A trait with its modifiers, and whether one of them is `const`. -/
def traitBound (consts : Bool) : Parse (List Node × Bool) := do
  let lifetimes ← boundLifetimes? rules
  let conditional ← peekGroup .bracket
  let constant ← peekWord "const"
  if conditional then
    let _ ← Parse.group .bracket (Parse.word "const")
  else if constant then
    let _ ← Parse.word "const"
  if (conditional || constant) && !consts then
    Parse.fail (.refused "a const bound is not allowed here")
  let relaxed ← Parse.mark? "?"
  let lifetimes ← if relaxed && lifetimes.isEmpty then boundLifetimes? rules else pure lifetimes
  let path ← path rules false
  let called : Look := fun tokens =>
    Look.group .paren tokens ||
      (Look.mark "::" tokens && Look.third (Look.group .paren) tokens)
  let bare := path.segments.getLast?.any fun last => last.arguments.isEmpty
  let path ←
    if bare && (← peek called) then do
      let _ ← Parse.mark? "::"
      let round ← roundArguments rules
      let last := path.segments.getLast?.map fun last => last.withArguments round
      pure { path with segments := path.segments.dropLast ++ last.toList }
    else
      pure path
  return (Node.seq [if relaxed then "?" else [], lifetimes, path.nodes], conditional || constant)

def bound (captures consts : Bool) : Parse Bound := do
  if ← peek Look.lifetime then
    let name ← Parse.lifetime
    return ⟨[.word name], .lifetime⟩
  if ← peekWord "use" then
    let nodes ← preciseCapture
    unless captures do Parse.fail (.refused "precise capturing is not allowed here")
    return ⟨nodes, .capture⟩
  let before := (← get).tokens
  let enclosed ← peekGroup .paren
  let (nodes, isConst) ←
    if enclosed then Parse.group .paren (traitBound rules consts) else traitBound rules consts
  if isConst then
    let trees ← Parse.since before
    return ⟨[.raw trees], .verbatim⟩
  else
    return ⟨if enclosed then [.group .paren nodes] else nodes, .trait⟩

/-- What may begin another bound after a plus sign. -/
def continuesBounds (consts : Bool) : Look := fun tokens =>
  Look.anyWord tokens || Look.mark "::" tokens || Look.mark "?" tokens || Look.lifetime tokens ||
    Look.group .paren tokens ||
    (consts && (Look.group .bracket tokens || Look.word "const" tokens))

/-- Bounds after a first one, each behind a plus sign; the last plus sign may stand alone. -/
def moreBounds (first : Bound) (captures consts : Bool) : Parse (Parse.Separated Bound) := do
  if ← Parse.mark? "+" then
    let stop : Parse Bool := do return !(← peek (continuesBounds consts))
    let rest ←
      Parse.chainLoop "+" stop (peekMark "+") (bound rules captures consts) (← Parse.budget)
    return ⟨first :: rest.elements, rest.trailing⟩
  else
    return ⟨[first], false⟩

/-- One bound, or more where plus signs are let in. -/
def boundList (plus captures consts : Bool) : Parse (Parse.Separated Bound) := do
  let first ← bound rules captures consts
  if plus then moreBounds rules first captures consts else return ⟨[first], false⟩

/-- Bounds up to where `stop` holds. -/
def boundsUntil (stop : Look) : Parse (Parse.Separated Bound) :=
  Parse.chain "+" (peek stop) (bound rules false true)

def boundNodes (bounds : Parse.Separated Bound) : List Node :=
  bounds.nodes "+" Bound.nodes

/-! ### Arguments -/

/-- One argument between angle brackets. A name with an equals sign or a colon behind it is bound
or constrained. -/
def argument : Parse Argument := do
  if (← peek Look.lifetime) && !(← peek (Look.second (Look.mark "+"))) then
    return .lifetime (← Parse.lifetime)
  if (← peek Look.literal) || (← peekGroup .brace) then
    return .const (← constArgument rules)
  let type ← rules.type .whole
  match type with
  | .path false [.mk _ (.round _)] => return .type type
  | .path false [.mk name own] =>
    let head : List Node := (Segment.mk name own).nodes
    if ← Parse.mark? "=" then
      if (← peek Look.literal) || (← peekGroup .brace) then
        return .binding (Node.seq [head, "=", ← constArgument rules])
      else
        return .binding (Node.seq [head, "=", ← rules.type .whole])
    else if ← Parse.mark? ":" then
      let bounds ← boundsUntil rules fun tokens => Look.mark "," tokens || Look.mark ">" tokens
      return .binding (Node.seq [head, ":", boundNodes bounds])
    else
      return .type type
  | _ => return .type type

/-- Arguments between angle brackets, possibly behind a double colon. -/
def angleArguments : Parse Arguments := do
  let turbofish ← Parse.mark? "::"
  Parse.mark "<"
  let found ← Parse.separatedUntil "," (peekMark ">") (argument rules)
  Parse.mark ">"
  return .angle turbofish found.elements found.trailing

end Grammar

end SlotSum
