import SlotSum.Source.Grammar.Path

/-!
Patterns. A pattern of one case is read here; alternatives are joined by bars where the context
lets them in. The old spelling of a closed range is read and printed as the new one.
-/

namespace SlotSum.Grammar

open Token (Look)
open Parse (peek peekWord peekMark peekGroup)

variable (rules : Rules)

namespace Pattern

def plain (nodes : List Node) : SlotSum.Pattern := ⟨nodes, .other⟩

end Pattern

/-- A bar between alternatives, which is no operator with two bars or an assignment. -/
def isBar : Look := fun tokens =>
  Look.mark "|" tokens && !Look.mark "||" tokens && !Look.mark "|=" tokens

def alternatives : Parse Pattern := do
  let leading ← Parse.mark? "|"
  let first ← rules.pattern
  let others ← Parse.many (peek isBar) do
    Parse.mark "|"
    let next ← rules.pattern
    return Node.seq ["|", next.nodes]
  if !leading && others.isEmpty then return first
  else
    return Pattern.plain
      (Node.seq [if leading then "|" else [], first.nodes, others.flatten])

def endsRange : Look := fun tokens =>
  tokens.isEmpty || Look.mark "|" tokens || Look.mark "=" tokens ||
    (Look.mark ":" tokens && !Look.mark "::" tokens) || Look.mark "," tokens ||
    Look.mark ";" tokens || Look.word "if" tokens

def rangeBound? : Parse (Option (List Node)) := do
  if ← peek endsRange then return none
  if ← peek Look.literal then
    let (negative, text) ← Parse.literal
    return some [.literal [] negative text]
  else if ← peekWord "const" then
    let _ ← Parse.word "const"
    return some (Node.seq ["const", ← blockWithAttributes rules])
  else
    let type ← qualifiedPath rules true
    return some type.pathNodes

/-- The dots of a range: whether they include the upper bound. -/
def rangeDots (obsolete : Bool) : Parse Bool := do
  if ← Parse.mark? "..=" then return true
  if ← peekMark "..." then
    unless obsolete do Parse.expected "`..`"
    Parse.mark "..."
    return true
  Parse.mark ".."
  return false

def dots (closed : Bool) : List Node := if closed then "..=" else ".."

/-- The rest of a range pattern behind its lower bound. -/
def rangeFrom (start : List Node) : Parse Pattern := do
  let closed ← rangeDots true
  let stop ← rangeBound? rules
  match stop with
  | some stop => return Pattern.plain (Node.seq [start, dots closed, stop])
  | none =>
    if closed then Parse.expected "range upper bound"
    return ⟨Node.seq [start, dots closed], .openRange⟩

/-- A range pattern without a lower bound, or the dots that stand for any rest. -/
def rangeTo : Parse Pattern := do
  let closed ← rangeDots false
  let stop ← rangeBound? rules
  match stop with
  | some stop => return ⟨Node.seq [dots closed, stop], .openRange⟩
  | none =>
    if closed then Parse.expected "range upper bound"
    return ⟨[.word ".."], .rest⟩

/-- The number of a positional member, printed without separators, base or leading zeros. -/
def positional (text : String) : Option String :=
  let digits := text.toList
  if !digits.isEmpty && digits.all fun c => c.isDigit || c == '_' then
    let value := (digits.filter Char.isDigit).foldl (fun value c => value * 10 + (c.toNat - 48)) 0
    some (toString value)
  else
    none

/-- A named or positional member: whether it is named, and its text. -/
def member : Parse (Bool × String) := do
  if ← peek Look.identifier then return (true, (← Parse.identifier).text)
  let found : Look := fun tokens =>
    match Token.front tokens with
    | .literal .. :: _ => true
    | _ => false
  if ← peek found then
    let (_, text) ← Parse.literal
    match positional text with
    | some index => return (false, index)
    | none => Parse.expected "unsuffixed integer"
  else
    Parse.expected "identifier or integer"

def fieldPattern : Parse (List Node) := do
  let before := (← get).tokens
  let boxed ← Parse.word? "box"
  let byReference ← Parse.word? "ref"
  let mutable ← Parse.word? "mut"
  let modified := boxed || byReference || mutable
  let (named, name) ← if modified then do
      let name ← Parse.identifier
      pure (true, name.text)
    else member
  if !named || (!modified && (← peekMark ":")) then
    Parse.mark ":"
    let pattern ← alternatives rules
    return Node.seq [name, ":", pattern.nodes]
  else if boxed then
    let trees ← Parse.since before
    return [.raw trees]
  else
    return Node.seq
      [if byReference then "ref" else [], if mutable then "mut" else [], name]

/-- Fields of a structure pattern; dots for all other fields come last. -/
def fieldPatterns : Nat → Parse (List Node)
  | 0 => Parse.expected "identifier"
  | turns + 1 => do
    if ← Parse.isEmpty then return []
    let attributes ← outerAttributes rules
    if ← Parse.mark? ".." then return Node.seq [attributes, ".."]
    let field ← fieldPattern rules
    if ← Parse.isEmpty then return Node.seq [attributes, field]
    Parse.mark ","
    return Node.seq [attributes, field, ",", ← fieldPatterns turns]

def patternList : Parse (Parse.Separated Pattern) := Parse.separated "," (alternatives rules)

def pathPattern : Parse Pattern := do
  let type ← qualifiedPath rules true
  if !type.isQualified && (← peekMark "!") && !(← peekMark "!=") && type.isPlainPath then
    Parse.mark "!"
    let (delimiter, tokens, _) ← Parse.rawGroup
    return Pattern.plain
      (Node.seq [type.pathNodes, "!", Node.raw [.group delimiter (Token.trees tokens)]])
  else if ← peekGroup .brace then
    let fields ← Parse.group .brace do fieldPatterns rules (← Parse.budget)
    return Pattern.plain (Node.seq [type.pathNodes, Node.group .brace fields])
  else if ← peekGroup .paren then
    let elements ← Parse.group .paren (patternList rules)
    return Pattern.plain
      (Node.seq [type.pathNodes, Node.group .paren (elements.nodes "," SlotSum.Pattern.nodes)])
  else if ← peekMark ".." then
    rangeFrom rules type.pathNodes
  else
    return Pattern.plain type.pathNodes

def bindingPattern : Parse Pattern := do
  let byReference ← Parse.word? "ref"
  let mutable ← Parse.word? "mut"
  let name ← if ← peekWord "self" then Parse.anyWord else Parse.identifier
  let inner : List Node ←
    if ← Parse.mark? "@" then do
      let inner ← rules.pattern
      pure (Node.seq ["@", inner.nodes])
    else pure []
  return Pattern.plain
    (Node.seq [if byReference then "ref" else [], if mutable then "mut" else [], name.text, inner])

/-- A pattern in parentheses or a tuple of patterns. A single pattern with a comma is a tuple. -/
def tuplePattern : Parse Pattern := do
  let elements ← Parse.group .paren (patternList rules)
  return Pattern.plain [.group .paren (elements.nodes "," SlotSum.Pattern.nodes)]

def slicePattern : Parse Pattern := do
  let elements ← Parse.group .bracket (patternList rules)
  if elements.elements.any fun element => element.shape = .openRange then
    Parse.fail (.refused "range pattern is not allowed unparenthesized inside slice pattern")
  return Pattern.plain [.group .bracket (elements.nodes "," SlotSum.Pattern.nodes)]

/-- What begins a pattern that is a path with something behind it. -/
def startsPathPattern : Look := fun tokens =>
  (Look.identifier tokens &&
      (Look.second (Look.mark "::") tokens || Look.second (Look.mark "!") tokens ||
        Look.second (Look.group .brace) tokens || Look.second (Look.group .paren) tokens ||
        Look.second (Look.mark "..") tokens)) ||
    (Look.word "self" tokens && Look.second (Look.mark "::") tokens) ||
    Look.mark "::" tokens || Look.mark "<" tokens ||
    pathKeyword ["Self", "super", "crate"] tokens

def pattern : Parse Pattern := do
  if ← peek startsPathPattern then pathPattern rules
  else if ← Parse.word? "_" then return Pattern.plain "_"
  else if ← peekWord "box" then
    let before := (← get).tokens
    let _ ← Parse.word "box"
    let _ ← rules.pattern
    let trees ← Parse.since before
    return Pattern.plain [.raw trees]
  else if (← peekMark "-") || (← peek Look.literal) || (← peekWord "const") then
    match ← rangeBound? rules with
    | none => Parse.expected "literal"
    | some start =>
      if ← peekMark ".." then rangeFrom rules start else return Pattern.plain start
  else if (← peek (pathKeyword ["ref", "mut", "self"])) || (← peek Look.identifier) then
    bindingPattern rules
  else if ← Parse.mark? "&" then
    let mutable ← Parse.word? "mut"
    let inner ← rules.pattern
    return Pattern.plain (Node.seq ["&", if mutable then "mut" else [], inner.nodes])
  else if ← peekGroup .paren then tuplePattern rules
  else if ← peekGroup .bracket then slicePattern rules
  else if (← peekMark "..") && !(← peekMark "...") then rangeTo rules
  else Parse.expected "pattern"

end SlotSum.Grammar
