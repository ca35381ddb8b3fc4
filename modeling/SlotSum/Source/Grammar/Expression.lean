import SlotSum.Source.Grammar.Type
import SlotSum.Source.Grammar.Pattern

/-!
Expressions. Operators bind by precedence, comparisons do not chain, and a range is no left
operand. Where a brace would open the body of a condition no structure literal is read, and a form
that ends with its own braces ends a statement.
-/

namespace SlotSum.Grammar

open Token (Look)
open Parse (peek peekWord peekMark peekGroup)

variable (rules : Rules)

/-! ### Operators -/

namespace Precedence

def lowest : Nat := 0
def assignment : Nat := 1
def range : Nat := 2
def disjunction : Nat := 3
def conjunction : Nat := 4
def comparison : Nat := 6
def bitsOfEither : Nat := 7
def bitsOfOne : Nat := 8
def bitsOfBoth : Nat := 9
def shift : Nat := 10
def sum : Nat := 11
def product : Nat := 12
def cast : Nat := 13

end Precedence

/-- Binary operators by precedence, no spelling behind a shorter one that it begins with. -/
def operatorRows : List (Nat × List String) :=
  [ (Precedence.assignment, ["+=", "-=", "*=", "/=", "%=", "^=", "&=", "|=", "<<=", ">>="]),
    (Precedence.disjunction, ["||"]),
    (Precedence.conjunction, ["&&"]),
    (Precedence.shift, ["<<", ">>"]),
    (Precedence.comparison, ["==", "<=", "!=", ">=", "<", ">"]),
    (Precedence.sum, ["+", "-"]),
    (Precedence.product, ["*", "/", "%"]),
    (Precedence.bitsOfOne, ["^"]),
    (Precedence.bitsOfBoth, ["&"]),
    (Precedence.bitsOfEither, ["|"]) ]

def binaryOperators : List (String × Nat) :=
  operatorRows.flatMap fun (precedence, spellings) => spellings.map fun text => (text, precedence)

def operatorAt? (tokens : List Token) : Option (String × Nat) :=
  binaryOperators.find? fun operator => Look.mark operator.1 tokens

/-- The precedence of whatever may go on behind an operand. -/
def precedenceAt (tokens : List Token) : Nat :=
  match operatorAt? tokens with
  | some (_, precedence) => precedence
  | none =>
    if Look.mark "=" tokens && !Look.mark "=>" tokens then Precedence.assignment
    else if Look.mark ".." tokens then Precedence.range
    else if Look.word "as" tokens then Precedence.cast
    else Precedence.lowest

/-- The right operand of an operator: it takes all that binds more tightly. -/
def rightOperandLoop (structures : Bool) (precedence : Nat) : Nat → Expr → Parse Expr
  | 0, _ => Parse.expected "an expression"
  | turns + 1, operand => do
    let before ← get
    let next := precedenceAt before.tokens
    if precedence < next || (next = precedence && precedence = Precedence.assignment) then
      let longer ← rules.continued structures operand next
      if Token.sizes (← get).tokens = Token.sizes before.tokens then return longer
      rightOperandLoop structures precedence turns longer
    else
      return operand

def rightOperand (structures : Bool) (precedence : Nat) : Parse Expr := do
  let operand ← rules.operand structures
  rightOperandLoop rules structures precedence (← Parse.budget) operand

/-- What shows that a range has no upper bound. -/
def endsOpenRange (structures : Bool) : Look := fun tokens =>
  tokens.isEmpty || Look.mark "," tokens || Look.mark ";" tokens ||
    (Look.mark "." tokens && !Look.mark ".." tokens) || Look.mark "?" tokens ||
    Look.mark "=>" tokens || (!structures && Look.group .brace tokens) ||
    ["=", "+", "/", "%", "^", ">", "<=", "!=", "-=", "*=", "&=", "|=", "<<="].any
      (fun operator => Look.mark operator tokens) ||
    Look.word "as" tokens

def rangeRest (structures : Bool) (start : List Node) : Parse Expr := do
  let closed ← rangeDots false
  if !closed && (← peek (endsOpenRange structures)) then
    return ⟨Node.seq [start, dots closed], .range, false⟩
  else
    let stop ← rightOperand rules structures Precedence.range
    return ⟨Node.seq [start, dots closed, stop.nodes], .range, stop.endsInBrace⟩

/-- A cast may not be followed by what binds more tightly. -/
def afterCast : Parse Unit := do
  let tighter : Look := fun tokens =>
    (Look.mark "." tokens && !Look.mark ".." tokens) || Look.mark "?" tokens ||
      Look.group .bracket tokens || Look.group .paren tokens
  if ← peek tighter then Parse.fail (.refused "casts cannot be followed by this")

/-- Operators of at least a precedence behind an operand. -/
def continuedLoop (structures : Bool) (lowest : Nat) : Nat → Expr → Parse Expr
  | 0, _ => Parse.expected "an expression"
  | turns + 1, left => do
    if left.isRange then return left
    let tokens := (← get).tokens
    match operatorAt? tokens with
    | some (operator, precedence) =>
      if precedence < lowest then return left
      if precedence = Precedence.comparison && left.shape = .comparison then
        Parse.fail (.refused "comparison operators cannot be chained")
      Parse.mark operator
      let right ← rightOperand rules structures precedence
      let shape := if precedence = Precedence.comparison then .comparison else .other
      let whole := ⟨Node.seq [left.nodes, operator, right.nodes], shape, right.endsInBrace⟩
      continuedLoop structures lowest turns whole
    | none =>
      if lowest ≤ Precedence.assignment && Look.mark "=" tokens && !Look.mark "=>" tokens then
        Parse.mark "="
        let right ← rightOperand rules structures Precedence.assignment
        let whole := ⟨Node.seq [left.nodes, "=", right.nodes], .other, right.endsInBrace⟩
        continuedLoop structures lowest turns whole
      else if lowest ≤ Precedence.range && Look.mark ".." tokens then
        let whole ← rangeRest rules structures left.nodes
        continuedLoop structures lowest turns whole
      else if lowest ≤ Precedence.cast && Look.word "as" tokens then
        let _ ← Parse.word "as"
        let type ← rules.type ⟨false, false⟩
        afterCast
        continuedLoop structures lowest turns (.plain (Node.seq [left.nodes, "as", type]))
      else
        return left

def continued (structures : Bool) (left : Expr) (lowest : Nat) : Parse Expr := do
  continuedLoop rules structures lowest (← Parse.budget) left

def expression (structures : Bool) : Parse Expr := do
  let operand ← rules.operand structures
  continued rules structures operand Precedence.lowest

/-! ### What stands behind an operand -/

def callArguments : Parse Node := do
  let arguments ← Parse.group .paren (Parse.separated "," (rules.expression true))
  return .group .paren (arguments.nodes "," Expr.nodes)

/-- A number with a point behind a dot is two positional members; one that ends with its point is
followed by another member. -/
def splitMembers (text : String) : Option (List String × Bool) := do
  let parts := text.splitOn "."
  let open_ := parts.getLast? = some ""
  let parts := if open_ then parts.dropLast else parts
  let members ← parts.mapM positional
  return (members, open_)

def floatAt? : List Token → Option String := fun tokens =>
  match Token.front tokens with
  | .literal text _ :: _ =>
    if text.contains '.' && Look.startsWithDigit text then some text else none
  | _ => none

def memberRest (subject : List Node) : Parse Expr := do
  if ← Parse.word? "await" then return .plain (Node.seq [subject, ".", "await"])
  let (named, name) ← member
  let turbofish : List Node ←
    if named && (← peekMark "::") then do
      let arguments ← rules.arguments
      pure [Node.arguments arguments]
    else pure []
  if named && (!turbofish.isEmpty || (← peekGroup .paren)) then
    let arguments ← callArguments rules
    return .plain (Node.seq [subject, ".", name, turbofish, arguments])
  else
    return .plain (Node.seq [subject, ".", name])

def trailersLoop : Nat → Expr → Parse Expr
  | 0, _ => Parse.expected "an expression"
  | turns + 1, subject => do
    let tokens := (← get).tokens
    if Look.group .paren tokens then
      let arguments ← callArguments rules
      trailersLoop turns (.plain (Node.seq [subject.nodes, arguments]))
    else if Look.mark "." tokens && !Look.mark ".." tokens && !subject.isRange then
      Parse.mark "."
      match floatAt? (← get).tokens with
      | some text =>
        let _ ← Parse.literal
        match splitMembers text with
        | none => Parse.expected "member"
        | some (members, open_) =>
          let nodes := members.flatMap fun member => [Node.word ".", Node.word member]
          let subject := subject.nodes ++ nodes
          if open_ then trailersLoop turns (← memberRest rules subject)
          else trailersLoop turns (.plain subject)
      | none => trailersLoop turns (← memberRest rules subject.nodes)
    else if Look.group .bracket tokens then
      let index ← Parse.group .bracket (rules.expression true)
      trailersLoop turns (.plain (Node.seq [subject.nodes, Node.group .bracket index.nodes]))
    else if Look.mark "?" tokens && !subject.isRange then
      Parse.mark "?"
      trailersLoop turns (.plain (Node.seq [subject.nodes, "?"]))
    else
      return subject

/-- Calls, members, indices and question marks behind an operand. -/
def trailers (subject : Expr) : Parse Expr := do
  trailersLoop rules (← Parse.budget) subject

/-! ### Forms with braces -/

def blockLike (nodes : List Node) : Expr := ⟨nodes, .blockLike, true⟩

/-- A condition, in which a brace opens the body. -/
def condition : Parse (List Node) := return (← rules.expression false).nodes

/-- `if` with its alternatives, each of which may be another `if`. -/
def conditionalLoop : Nat → Parse (List Node)
  | 0 => Parse.expected "an expression"
  | turns + 1 => do
    let _ ← Parse.word "if"
    let condition ← condition rules
    let body ← block rules
    let head := Node.seq ["if", condition, body]
    if ← Parse.word? "else" then
      if ← peekWord "if" then return Node.seq [head, "else", ← conditionalLoop turns]
      else return Node.seq [head, "else", ← block rules]
    else
      return head

def conditional : Parse Expr := do
  return blockLike (← conditionalLoop rules (← Parse.budget))

def whileExpression : Parse Expr := do
  let _ ← Parse.word "while"
  let condition ← condition rules
  let body ← blockWithAttributes rules
  return blockLike (Node.seq ["while", condition, body])

def forExpression : Parse Expr := do
  let _ ← Parse.word "for"
  let pattern ← alternatives rules
  let _ ← Parse.word "in"
  let subject ← condition rules
  let body ← blockWithAttributes rules
  return blockLike (Node.seq ["for", pattern.nodes, "in", subject, body])

def loopExpression : Parse Expr := do
  let _ ← Parse.word "loop"
  return blockLike (Node.seq ["loop", ← blockWithAttributes rules])

/-- One arm of a match. Its comma may be left out behind a form that ends with its own braces and
at the end. -/
def arm : Parse (List Node) := do
  let attributes ← outerAttributes rules
  let pattern ← alternatives rules
  let guard_ : List Node ←
    if ← Parse.word? "if" then do
      let guard_ ← rules.expression true
      pure (Node.seq ["if", guard_.nodes])
    else pure []
  Parse.mark "=>"
  let body ← rules.statementExpression
  let needed := body.shape != .blockLike && !(← Parse.isEmpty)
  let comma ← if needed then do
      Parse.mark ","
      pure true
    else Parse.mark? ","
  return Node.seq [attributes, pattern.nodes, guard_, "=>", body.nodes, if comma then "," else []]

def matchExpression : Parse Expr := do
  let _ ← Parse.word "match"
  let subject ← condition rules
  let body ← Parse.group .brace do
    let attributes ← innerAttributes rules
    let arms ← Parse.many (return !(← Parse.isEmpty)) (arm rules)
    return attributes ++ arms.flatten
  return blockLike (Node.seq ["match", subject, Node.group .brace body])

/-- A word in front of a block. -/
def prefixedBlock (word : String) (attributes : Bool) : Parse Expr := do
  let _ ← Parse.word word
  let body ← if attributes then blockWithAttributes rules else block rules
  return blockLike (Node.seq [word, body])

def blockExpression : Parse Expr := do
  return blockLike [← blockWithAttributes rules]

def labeled : Parse Expr := do
  let label ← Parse.lifetime
  Parse.mark ":"
  let body ←
    if ← peekWord "while" then whileExpression rules
    else if ← peekWord "for" then forExpression rules
    else if ← peekWord "loop" then loopExpression rules
    else if ← peekGroup .brace then blockExpression rules
    else Parse.expected "loop or block expression"
  return { body with nodes := Node.seq [label, ":", body.nodes] }

/-! ### Operands -/

/-- Fields of a structure literal; a base for all other fields comes last. -/
def fieldValues : Nat → Parse (List Node)
  | 0 => Parse.expected "identifier"
  | turns + 1 => do
    if ← Parse.isEmpty then return []
    if ← peekMark ".." then
      Parse.mark ".."
      if ← Parse.isEmpty then return ".."
      else return Node.seq ["..", (← rules.expression true).nodes]
    let attributes ← outerAttributes rules
    let (named, name) ← member
    let value : List Node ←
      if (← peekMark ":") || !named then do
        Parse.mark ":"
        let value ← rules.expression true
        pure (Node.seq [":", value.nodes])
      else pure []
    let field := Node.seq [attributes, name, value]
    if ← Parse.isEmpty then return field
    Parse.mark ","
    return Node.seq [field, ",", ← fieldValues turns]

/-- What a path goes on with: a macro call, a structure literal or nothing. -/
def pathRest (structures : Bool) (type : Ty) : Parse Expr := do
  if !type.isQualified && (← peekMark "!") && !(← peekMark "!=") && type.isPlainPath then
    Parse.mark "!"
    let (delimiter, tokens, _) ← Parse.rawGroup
    let braces := delimiter = .brace
    let call := Node.raw [.group delimiter (Token.trees tokens)]
    return ⟨Node.seq [type.pathNodes, "!", call], .macroCall braces, braces⟩
  else if structures && (← peekGroup .brace) then
    let fields ← Parse.group .brace do fieldValues rules (← Parse.budget)
    return ⟨Node.seq [type.pathNodes, Node.group .brace fields], .other, true⟩
  else
    return ⟨type.pathNodes, .path type.isQualified type.isPlainPath, false⟩

def pathExpression (structures : Bool) : Parse Expr := do
  pathRest rules structures (← qualifiedPath rules true)

/-- A path in an invisible group, read as a path and nothing else. -/
def groupedPath? : Parse (Option Ty) := do
  let found ← Parse.attempt do
    let type ← Parse.invisibleGroup (qualifiedPath rules true)
    return type
  return found

/-- An expression in an invisible group. A path in it may go on behind the group. -/
def groupedExpression (structures : Bool) : Parse Expr := do
  match ← groupedPath? rules with
  | some type =>
    let longer ← moreSegments rules true
    let whole ← pathRest rules structures (type.extend longer)
    match whole.shape, longer with
    | .path .., [] => return ⟨[.group .invisible whole.nodes], .grouped false, false⟩
    | _, _ => return whole
  | none =>
    let inner ← Parse.invisibleGroup (rules.expression true)
    return ⟨[.group .invisible inner.nodes], .grouped inner.endsStatement, false⟩

def parenthesizedExpression : Parse Expr := do
  let elements ← Parse.group .paren (Parse.separated "," (rules.expression true))
  return .plain [.group .paren (elements.nodes "," Expr.nodes)]

def bracketedExpression : Parse Expr := do
  let nodes ← Parse.group .bracket do
    if ← Parse.isEmpty then return []
    let first ← rules.expression true
    if ← Parse.mark? ";" then
      let length ← rules.expression true
      return Node.seq [first.nodes, ";", length.nodes]
    else if ← Parse.isEmpty then
      return first.nodes
    else
      Parse.mark ","
      let rest ← Parse.separated "," (rules.expression true)
      return Node.seq [first.nodes, ",", rest.nodes "," Expr.nodes]
  return .plain [.group .bracket nodes]

def closureInput : Parse (List Node) := do
  let attributes ← outerAttributes rules
  let pattern ← rules.pattern
  if ← Parse.mark? ":" then
    return Node.seq [attributes, pattern.nodes, ":", ← rules.type .whole]
  else
    return attributes ++ pattern.nodes

def closure (structures : Bool) : Parse Expr := do
  let lifetimes ← boundLifetimes? rules
  let constant ← Parse.word? "const"
  let pinned ← Parse.word? "static"
  let asynchronous ← Parse.word? "async"
  let moving ← Parse.word? "move"
  Parse.mark "|"
  let inputs ← Parse.separatedUntil "," (peekMark "|") (closureInput rules)
  Parse.mark "|"
  let qualifiers := Node.seq
    [ lifetimes, if constant then "const" else [], if pinned then "static" else [],
      if asynchronous then "async" else [], if moving then "move" else [] ]
  let head := Node.seq [qualifiers, "|", inputs.nodes "," id, "|"]
  if ← Parse.mark? "->" then
    let type ← rules.type .whole
    let body ← block rules
    return ⟨Node.seq [head, "->", type, body], .other, true⟩
  else
    let body ← rules.expression structures
    return ⟨head ++ body.nodes, .other, body.endsInBrace⟩

def beginsExpression : Look := fun tokens =>
  let unless_ (operator : String) (longer : List String) :=
    Look.mark operator tokens && !longer.any fun other => Look.mark other tokens
  Look.anyWord tokens || Look.group .paren tokens || Look.group .bracket tokens ||
    Look.group .brace tokens || Look.literal tokens || unless_ "!" ["!="] ||
    unless_ "-" ["-=", "->"] || unless_ "*" ["*="] || unless_ "|" ["|="] || unless_ "&" ["&="] ||
    Look.mark ".." tokens || unless_ "<" ["<=", "<<="] || Look.mark "::" tokens ||
    Look.lifetime tokens || Look.mark "#" tokens

/-- A word that may be followed by a value. -/
def jump (word : String) (label structures : Bool) : Parse Expr := do
  let _ ← Parse.word word
  let label : List Node ←
    if label then do
      match ← Parse.lifetime? with
      | some name => pure (name : List Node)
      | none => pure []
    else pure []
  if !label.isEmpty && (← peekMark ":") then
    Parse.fail (.refused "parentheses required")
  if (← peek beginsExpression) && (structures || !(← peekGroup .brace)) then
    let value ← rules.expression structures
    return ⟨Node.seq [word, label, value.nodes], .other, value.endsInBrace⟩
  else
    return .plain (Node.seq [word, label])

def letExpression (structures : Bool) : Parse Expr := do
  let _ ← Parse.word "let"
  let pattern ← alternatives rules
  Parse.mark "="
  let operand ← rules.operand structures
  let value ← continued rules structures operand Precedence.comparison
  return ⟨Node.seq ["let", pattern.nodes, "=", value.nodes], .other, value.endsInBrace⟩

def beginsClosure : Look := fun tokens =>
  Look.mark "|" tokens || Look.word "move" tokens ||
    (Look.word "for" tokens && Look.second (Look.mark "<") tokens &&
      (Look.third Look.lifetime tokens || Look.third (Look.mark ">") tokens)) ||
    (Look.word "const" tokens && !Look.second (Look.group .brace) tokens) ||
    Look.word "static" tokens ||
    (Look.word "async" tokens &&
      (Look.second (Look.mark "|") tokens || Look.second (Look.word "move") tokens))

def beginsAsyncBlock : Look := fun tokens =>
  Look.word "async" tokens &&
    (Look.second (Look.group .brace) tokens ||
      (Look.second (Look.word "move") tokens && Look.third (Look.group .brace) tokens))

def asyncBlock : Parse Expr := do
  let _ ← Parse.word "async"
  let moving ← Parse.word? "move"
  let body ← block rules
  return ⟨Node.seq ["async", if moving then "move" else [], body], .other, true⟩

def beginsPathExpression : Look := fun tokens =>
  Look.identifier tokens || Look.mark "::" tokens || Look.mark "<" tokens ||
    pathKeyword ["self", "Self", "super", "crate"] tokens ||
    (Look.word "try" tokens &&
      (Look.second (Look.mark "!") tokens || Look.second (Look.mark "::") tokens))

/-- A built-in form, kept as it was written. -/
def builtin : Parse Expr := do
  let before := (← get).tokens
  let _ ← Parse.word "builtin"
  Parse.mark "#"
  let _ ← Parse.identifier
  match Token.front (← get).tokens with
  | .group .paren inner opening closing :: rest =>
    Parse.advance (.group .paren inner opening closing) rest
    let trees ← Parse.since before
    return ⟨[.raw trees], .verbatim, false⟩
  | _ => Parse.expected "parentheses"

/-- `become` with its call, kept as it was written. -/
def tailCall : Parse Expr := do
  let before := (← get).tokens
  let _ ← Parse.word "become"
  let _ ← rules.expression true
  let trees ← Parse.since before
  return ⟨[.raw trees], .verbatim, false⟩

/-- A form that begins with a keyword. -/
def keywordExpression? (structures : Bool) : Parse (Option Expr) := do
  if ← peekWord "break" then some <$> jump rules "break" true structures
  else if ← peekWord "continue" then
    let _ ← Parse.word "continue"
    let label : List Node := match ← Parse.lifetime? with
      | some name => name
      | none => []
    return some (.plain (Node.seq ["continue", label]))
  else if ← peekWord "return" then some <$> jump rules "return" false structures
  else if ← peekWord "become" then some <$> tailCall rules
  else if ← peekGroup .bracket then some <$> bracketedExpression rules
  else if ← peekWord "let" then some <$> letExpression rules structures
  else if ← peekWord "if" then some <$> conditional rules
  else if ← peekWord "while" then some <$> whileExpression rules
  else if ← peekWord "for" then some <$> forExpression rules
  else if ← peekWord "loop" then some <$> loopExpression rules
  else if ← peekWord "match" then some <$> matchExpression rules
  else if ← peekWord "yield" then some <$> jump rules "yield" false true
  else if ← peekWord "unsafe" then some <$> prefixedBlock rules "unsafe" true
  else if ← peekWord "const" then some <$> prefixedBlock rules "const" true
  else return none

def atom (structures : Bool) : Parse Expr := do
  if ← peek Look.invisible then groupedExpression rules structures
  else if ← peek Look.literal then
    let (negative, text) ← Parse.literal
    return .plain [.literal [] negative text]
  else if ← peek beginsAsyncBlock then asyncBlock rules
  else if (← peekWord "try") && (← peek (Look.second (Look.group .brace))) then
    prefixedBlock rules "try" false
  else if ← peek beginsClosure then closure rules structures
  else if (← peekWord "builtin") && (← peek (Look.second (Look.mark "#"))) then builtin
  else if ← peek beginsPathExpression then pathExpression rules structures
  else if ← peekGroup .paren then parenthesizedExpression rules
  else
    match ← keywordExpression? rules structures with
    | some expr => return expr
    | none =>
      if ← peekGroup .brace then blockExpression rules
      else if ← peekMark ".." then rangeRest rules structures []
      else if ← Parse.word? "_" then return .plain "_"
      else if ← peek Look.lifetime then labeled rules
      else Parse.expected "an expression"

/-- Attributes of an expression; an invisible group hides none. -/
def expressionAttributes : Parse (List Node) :=
  Parse.many (do return !(← peek Look.invisible) && (← peekMark "#")) (attributeNode rules false)

/-- An operand without operators in front. -/
def trailedAtom (attributes : List Node) (structures : Bool) : Parse Expr := do
  let whole ← trailers rules (← atom rules structures)
  if whole.isRange && !attributes.isEmpty then
    Parse.fail (.refused "attributes are not allowed on a range")
  return whole.withAttributes attributes

/-- An operand with the operators in front of it and the trailers behind it. -/
def operand (structures : Bool) : Parse Expr := do
  let attributes ← expressionAttributes rules
  if ← peek Look.invisible then trailedAtom rules attributes structures
  else if ← Parse.mark? "&" then
    let raw := (← peekWord "raw") &&
      ((← peek (Look.second (Look.word "mut"))) || (← peek (Look.second (Look.word "const"))))
    if raw then
      let _ ← Parse.word "raw"
    let mutable ← Parse.word? "mut"
    let constant := raw && !mutable
    if constant then
      let _ ← Parse.word "const"
    let inner ← rules.operand structures
    let modifiers := Node.seq
      [if raw then "raw" else [], if mutable then "mut" else [], if constant then "const" else []]
    return ⟨Node.seq [attributes, "&", modifiers, inner.nodes], .other, inner.endsInBrace⟩
  else
    let tokens := (← get).tokens
    match ["*", "!", "-"].find? fun sign => Look.mark sign tokens with
    | some sign =>
      Parse.mark sign
      let inner ← rules.operand structures
      return ⟨Node.seq [attributes, sign, inner.nodes], .other, inner.endsInBrace⟩
    | none => trailedAtom rules attributes structures

/-! ### At the front of a statement -/

/-- What begins a form that ends with its own braces, or nothing. -/
def bracedForm? : Parse (Option Expr) := do
  if ← peekWord "if" then some <$> conditional rules
  else if ← peekWord "while" then some <$> whileExpression rules
  else if (← peekWord "for") && !(← peek beginsClosure) then some <$> forExpression rules
  else if ← peekWord "loop" then some <$> loopExpression rules
  else if ← peekWord "match" then some <$> matchExpression rules
  else if (← peekWord "try") && (← peek (Look.second (Look.group .brace))) then
    some <$> prefixedBlock rules "try" false
  else if ← peekWord "unsafe" then some <$> prefixedBlock rules "unsafe" true
  else if (← peekWord "const") && (← peek (Look.second (Look.group .brace))) then
    some <$> prefixedBlock rules "const" true
  else if ← peekGroup .brace then some <$> blockExpression rules
  else if ← peek Look.lifetime then some <$> labeled rules
  else return none

/-- An expression at the front of a statement or match arm: a form that ends with its own braces is
whole unless a dot or question mark follows. -/
def statementExpression : Parse Expr := do
  let attributes ← expressionAttributes rules
  let first ←
    if ← peek Look.invisible then do
      let atom ← groupedExpression rules true
      if atom.endsStatement then pure atom else trailers rules atom
    else
      match ← bracedForm? rules with
      | some form => pure form
      | none => rules.operand true
  if !first.endsStatement then
    continued rules true (first.withAttributes attributes) Precedence.lowest
  else if ((← peekMark ".") && !(← peekMark "..")) || (← peekMark "?") then
    let longer ← trailers rules first
    continued rules true (longer.withAttributes attributes) Precedence.lowest
  else
    return first.withAttributes attributes

end SlotSum.Grammar
