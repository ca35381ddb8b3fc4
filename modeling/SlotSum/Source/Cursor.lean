import SlotSum.Token.Located

/-!
Reading tokens. A cursor holds what is left of the group being read. Invisible groups are
transparent: whatever looks for a particular token looks inside an invisible group at the front,
and taking the token leaves the rest of that group's contents in front of what follows it.
-/

namespace SlotSum

inductive Cause where
  /-- One of several things should stand here. -/
  | expected (choices : List String)
  /-- A keyword stands where an identifier should. -/
  | keyword (word : String)
  | repeated (name : String)
  /-- What stands here is complete but not allowed. -/
  | refused (reason : String)
  deriving DecidableEq, Repr, Inhabited

structure Fault where
  cause : Cause
  /-- Nothing is left where something should stand. -/
  atEnd : Bool
  span : Span
  deriving DecidableEq, Repr, Inhabited

namespace Fault

def choices : List String → String
  | [] => "unexpected token"
  | [only] => "expected " ++ only
  | [first, second] => "expected " ++ first ++ " or " ++ second
  | many => "expected one of: " ++ ", ".intercalate many

def message (fault : Fault) : String :=
  let text :=
    match fault.cause with
    | .expected names => choices names
    | .keyword word => "expected identifier, found keyword `" ++ word ++ "`"
    | .repeated name => "duplicate `" ++ name ++ "` option"
    | .refused reason => reason
  if fault.atEnd then "unexpected end of input, " ++ text else text

end Fault

/-- Where reading stands. -/
structure Cursor where
  tokens : List Token
  /-- The closing delimiter of the group being read, blamed when nothing is left in it. -/
  scope : Span
  /-- Where the token taken last ends. -/
  last : Span
  deriving Inhabited

/-- A production: it takes tokens from the front or says why it cannot. -/
abbrev Parse (α : Type) := StateT Cursor (Except Fault) α

namespace Token

mutual

/-- A token without the invisible groups that open at its front; an empty one leaves nothing. -/
def unveil : Token → List Token
  | word name => [word name]
  | mark char joint span => [mark char joint span]
  | literal text span => [literal text span]
  | group .invisible inner _ _ => front inner
  | group .paren inner opening closing => [group .paren inner opening closing]
  | group .bracket inner opening closing => [group .bracket inner opening closing]
  | group .brace inner opening closing => [group .brace inner opening closing]

/-- Opens the invisible groups at the front, so that the first token, if any, is none of them. -/
def front : List Token → List Token
  | [] => []
  | first :: rest =>
    match unveil first with
    | [] => front rest
    | visible => visible ++ rest

end

def keywords : List String :=
  ["_", "abstract", "as", "async", "await", "become", "box", "break", "const", "continue", "crate",
    "do", "dyn", "else", "enum", "extern", "false", "final", "fn", "for", "if", "impl", "in",
    "let", "loop", "macro", "match", "mod", "move", "mut", "override", "priv", "pub", "ref",
    "return", "Self", "self", "static", "struct", "super", "trait", "true", "try", "type",
    "typeof", "unsafe", "unsized", "use", "virtual", "where", "while", "yield"]

def isKeyword (text : String) : Bool := keywords.contains text

/-! ### Looking ahead -/

/-- A question about the front of a token list. -/
abbrev Look := List Token → Bool

namespace Look

def anyWord : Look := fun tokens =>
  match front tokens with
  | word _ :: _ => true
  | _ => false

def word (text : String) : Look := fun tokens =>
  match front tokens with
  | Token.word name :: _ => name.text == text
  | _ => false

def identifier : Look := fun tokens =>
  match front tokens with
  | Token.word name :: _ => !isKeyword name.text
  | _ => false

/-- An operator: its characters in a row, each joined to the next. -/
def marks : List Char → Look
  | [], _ => true
  | c :: cs, tokens =>
    match front tokens with
    | Token.mark char joint _ :: rest =>
      char == c && char != '\'' && (cs.isEmpty || (joint && marks cs rest))
    | _ => false

def mark (operator : String) : Look := marks operator.toList

def group (delimiter : Delimiter) : Look := fun tokens =>
  match front tokens with
  | Token.group found _ _ _ :: _ => found == delimiter
  | _ => false

/-- An invisible group stands right here. -/
def invisible : Look
  | Token.group .invisible _ _ _ :: _ => true
  | _ => false

def lifetime : Look := fun tokens =>
  match front tokens with
  | Token.mark '\'' _ _ :: rest => anyWord rest
  | _ => false

def startsWithDigit (text : String) : Bool := text.toList.head?.any Char.isDigit

/-- A literal, `true` and `false` and negated numbers included. -/
def literal : Look := fun tokens =>
  match front tokens with
  | Token.literal _ _ :: _ => true
  | Token.word name :: _ => name.text == "true" || name.text == "false"
  | Token.mark '-' _ _ :: rest =>
    match front rest with
    | Token.literal text _ :: _ => startsWithDigit text
    | _ => false
  | _ => false

def string : Look := fun tokens =>
  match front tokens with
  | Token.literal text _ :: _ =>
    match text.toList with
    | '"' :: _ => true
    | 'r' :: _ => true
    | _ => false
  | _ => false

/-- Passes over one token; the apostrophe and name of a lifetime count as one. -/
def skip? : List Token → Option (List Token)
  | [] => none
  | Token.mark '\'' _ _ :: Token.word _ :: rest => some rest
  | _ :: rest => some rest

def skips? : Nat → List Token → Option (List Token)
  | 0, tokens => some tokens
  | count + 1, tokens => (skip? tokens).bind (skips? count)

/-- A question about what follows some tokens. If an invisible group stands here, the tokens may
also be passed over inside it. -/
def after (count : Nat) (look : Look) : Look := fun tokens =>
  let inside :=
    match tokens with
    | Token.group .invisible inner _ _ :: _ => (skips? count inner).any look
    | _ => false
  inside || (skips? count tokens).any look

def second (look : Look) : Look := after 1 look

def third (look : Look) : Look := after 2 look

end Look

end Token

namespace Parse

open Token (Look)

/-! ### Failure and alternatives -/

/-- The span to blame for what stands here. -/
def Cursor.here (cursor : Cursor) : Span :=
  match cursor.tokens with
  | [] => cursor.scope
  | first :: _ => first.opening

def Cursor.fault (cursor : Cursor) (cause : Cause) : Fault :=
  ⟨cause, cursor.tokens.isEmpty, Cursor.here cursor⟩

/-- Fails at what stands here. -/
def fail (cause : Cause) : Parse α := fun cursor => .error (Cursor.fault cursor cause)

def expected (choice : String) : Parse α := fail (.expected [choice])

/-- Fails as an operator does that is not there: the end of a group goes unmentioned. -/
def missingMark (operator : String) : Parse α := fun cursor =>
  .error ⟨.expected ["`" ++ operator ++ "`"], false, Cursor.here cursor⟩

/-- The result of a production, if it has one; otherwise nothing is taken. -/
def attempt (production : Parse α) : Parse (Option α) := fun cursor =>
  match production cursor with
  | .ok (value, after) => .ok (some value, after)
  | .error _ => .ok (none, cursor)

/-! ### Looking -/

def peek (look : Look) : Parse Bool := do return look (← get).tokens

def peekWord (text : String) : Parse Bool := peek (Look.word text)

def peekMark (operator : String) : Parse Bool := peek (Look.mark operator)

def peekGroup (delimiter : Delimiter) : Parse Bool := peek (Look.group delimiter)

/-- Nothing is left in the group being read, not even an empty invisible group. -/
def isEmpty : Parse Bool := do return (← get).tokens.isEmpty

/-- How many tokens are left, those inside groups included: a bound for every loop over them. -/
def budget : Parse Nat := do return Token.sizes (← get).tokens + 1

/-! ### Taking -/

def advance (token : Token) (rest : List Token) : Parse Unit :=
  modify fun cursor => { cursor with tokens := rest, last := token.closing }

def anyWord : Parse Name := do
  match Token.front (← get).tokens with
  | .word name :: rest =>
    advance (.word name) rest
    return name
  | _ => expected "identifier"

def identifier : Parse Name := do
  match Token.front (← get).tokens with
  | .word name :: rest =>
    if Token.isKeyword name.text then fail (.keyword name.text)
    else
      advance (.word name) rest
      return name
  | _ => expected "identifier"

def word (text : String) : Parse Name := do
  match Token.front (← get).tokens with
  | .word name :: rest =>
    if name.text == text then
      advance (.word name) rest
      return name
    else
      expected ("`" ++ text ++ "`")
  | _ => expected ("`" ++ text ++ "`")

def takeMarks (operator : String) : List Char → Parse Unit
  | [] => return
  | c :: cs => do
    match Token.front (← get).tokens with
    | .mark char joint span :: rest =>
      if char == c && char != '\'' && (cs.isEmpty || joint) then
        advance (.mark char joint span) rest
        takeMarks operator cs
      else
        missingMark operator
    | _ => missingMark operator

/-- A particular operator; its last character may be joined to what follows. -/
def mark (operator : String) : Parse Unit := fun cursor =>
  if Look.mark operator cursor.tokens then takeMarks operator operator.toList cursor
  else missingMark operator cursor

def word? (text : String) : Parse Bool := do
  if ← peekWord text then
    let _ ← word text
    return true
  else
    return false

def mark? (operator : String) : Parse Bool := do
  if ← peekMark operator then
    mark operator
    return true
  else
    return false

def lifetime : Parse String := do
  match Token.front (← get).tokens with
  | .mark '\'' _ _ :: rest =>
    match Token.front rest with
    | .word name :: rest =>
      advance (.word name) rest
      return "'" ++ name.text
    | _ => expected "lifetime"
  | _ => expected "lifetime"

def lifetime? : Parse (Option String) := do
  if ← peek Look.lifetime then return some (← lifetime) else return none

/-- A literal: whether it is negated, and its text. -/
def literal : Parse (Bool × String) := do
  match Token.front (← get).tokens with
  | .literal text span :: rest =>
    advance (.literal text span) rest
    return (false, text)
  | .word name :: rest =>
    if name.text == "true" || name.text == "false" then
      advance (.word name) rest
      return (false, name.text)
    else
      expected "literal"
  | .mark '-' _ _ :: rest =>
    match Token.front rest with
    | .literal text span :: rest =>
      if Look.startsWithDigit text then
        advance (.literal text span) rest
        return (true, text)
      else
        expected "literal"
    | _ => expected "literal"
  | _ => expected "literal"

/-- Reads the contents of a group to their end. Empty invisible groups may be left over. -/
def inside (inner : List Token) (closing : Span) (production : Parse α) : Parse α := fun cursor =>
  match production { tokens := inner, scope := closing, last := cursor.last } with
  | .error fault => .error fault
  | .ok (value, after) =>
    match Token.front after.tokens with
    | [] => .ok (value, cursor)
    | first :: _ => .error ⟨.expected [], false, first.opening⟩

def group (delimiter : Delimiter) (production : Parse α) : Parse α := do
  match Token.front (← get).tokens with
  | .group found inner opening closing :: rest =>
    if found = delimiter then
      let value ← inside inner closing production
      advance (.group found inner opening closing) rest
      return value
    else
      expected "delimiter"
  | _ => expected "delimiter"

/-- A visible group as it stands, not looked for inside an invisible one. -/
def rawGroup : Parse (Delimiter × List Token × Span) := do
  match (← get).tokens with
  | .group delimiter inner opening closing :: rest =>
    if delimiter = .invisible then expected "delimiter"
    else
      advance (.group delimiter inner opening closing) rest
      return (delimiter, inner, closing)
  | _ => expected "delimiter"

/-- The invisible group that stands here, with its contents read to their end. -/
def invisibleGroup (production : Parse α) : Parse α := do
  match (← get).tokens with
  | .group .invisible inner opening closing :: rest =>
    let value ← inside inner closing production
    advance (.group .invisible inner opening closing) rest
    return value
  | _ => expected "invisible group"

/-! ### Repetition -/

/-- Repeats a production while a question is answered with yes. Every turn takes a token, so the
budget is enough. -/
def whileLoop (goOn : Parse Bool) (production : Parse α) : Nat → Parse (List α)
  | 0 => fail (.refused "nothing is taken")
  | turns + 1 => do
    if ← goOn then
      let first ← production
      return first :: (← whileLoop goOn production turns)
    else
      return []

def many (goOn : Parse Bool) (production : Parse α) : Parse (List α) := do
  whileLoop goOn production (← budget)

/-- Elements with a separator, and whether one stands at the end. -/
structure Separated (α : Type) where
  elements : List α
  trailing : Bool
  deriving Inhabited

/-- Elements up to where `stop` holds, which is asked before every element and every separator. -/
def separatedLoop (separator : Parse Unit) (stop : Parse Bool) (element : Parse α) :
    Nat → Parse (Separated α)
  | 0 => fail (.refused "nothing is taken")
  | turns + 1 => do
    if ← stop then return ⟨[], true⟩
    let first ← element
    if ← stop then return ⟨[first], false⟩
    separator
    let rest ← separatedLoop separator stop element turns
    return ⟨first :: rest.elements, rest.trailing⟩

/-- Elements up to where `stop` holds. -/
def separatedUntil (separator : String) (stop : Parse Bool) (element : Parse α) :
    Parse (Separated α) := do
  let found ← separatedLoop (mark separator) stop element (← budget)
  return ⟨found.elements, found.trailing && !found.elements.isEmpty⟩

def separated (separator : String) (element : Parse α) : Parse (Separated α) :=
  separatedUntil separator isEmpty element

/-- Elements that go on as long as a separator follows, and that may stop after one. -/
def chainLoop (separator : String) (stop goOn : Parse Bool) (element : Parse α) :
    Nat → Parse (Separated α)
  | 0 => fail (.refused "nothing is taken")
  | turns + 1 => do
    if ← stop then return ⟨[], true⟩
    let first ← element
    if ← goOn then
      mark separator
      let rest ← chainLoop separator stop goOn element turns
      return ⟨first :: rest.elements, rest.trailing⟩
    else
      return ⟨[first], false⟩

/-- Elements up to where `stop` holds or no separator follows. -/
def chain (separator : String) (stop : Parse Bool) (element : Parse α) : Parse (Separated α) := do
  let found ← chainLoop separator stop (peekMark separator) element (← budget)
  return ⟨found.elements, found.trailing && !found.elements.isEmpty⟩

/-! ### Extents -/

/-- Tokens between a position and the one where as many tokens are left as given. An invisible
group that is left halfway is opened. -/
def consumedFrom (left : Nat) : Nat → List Token → List Token
  | 0, _ => []
  | _, [] => []
  | turns + 1, first :: rest =>
    if first.size + Token.sizes rest ≤ left then []
    else if left ≤ Token.sizes rest then first :: consumedFrom left turns rest
    else
      match first with
      | .group _ inner _ _ => consumedFrom left turns (inner ++ rest)
      | _ => []

/-- The tokens as written between an earlier position and this one. -/
def since (before : List Token) : Parse (List Tree) := do
  let left := Token.sizes (← get).tokens
  return Token.trees (consumedFrom left (Token.sizes before + 1) before)

/-- A production together with the span from the first token it takes to the last. -/
def spanned (production : Parse α) : Parse (α × Span) := do
  let before ← get
  let first := Cursor.here { before with tokens := Token.front before.tokens }
  let value ← production
  return (value, first.through (← get).last)

/-- Reads a whole token list. What ends it is blamed on the beginning of the text. -/
def run (production : Parse α) (tokens : List Token) : Except Fault α :=
  let outside : Cursor := { tokens := [], scope := .callSite, last := .callSite }
  match inside tokens .callSite production outside with
  | .ok (value, _) => .ok value
  | .error fault => .error fault

end Parse

end SlotSum
