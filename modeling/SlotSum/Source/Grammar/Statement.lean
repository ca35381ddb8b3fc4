import SlotSum.Source.Grammar.Item
import SlotSum.Source.Grammar.Expression

/-!
Statements: local bindings, items, macro calls and expressions. An expression that does not end
with its own braces needs a semicolon unless it comes last.
-/

namespace SlotSum.Grammar

open Token (Look)
open Parse (peek peekWord peekMark peekGroup)

variable (rules : Rules)

/-- A statement, and whether it has to come last if no semicolon follows. -/
structure Statement where
  nodes : List Node
  mustEnd : Bool

/-- A macro call at the front of a statement: one that is an item, or one with braces that is a
statement of its own. -/
inductive MacroFront where
  | none
  | item
  | braces

def macroFront : Parse MacroFront := do
  let found ← Parse.attempt do
    let start ← get
    let _ ← modulePath
    let here := (← get).tokens
    set start
    if !Look.mark "!" here then return MacroFront.none
    if Look.second Look.identifier here || Look.second (Look.word "try") here then return .item
    let goesOn := (Look.third (Look.mark ".") here && !Look.third (Look.mark "..") here) ||
      Look.third (Look.mark "?") here
    if Look.second (Look.group .brace) here && !goesOn then return .braces
    return .none
  return found.getD .none

def beginsItem : Look := fun tokens =>
  let first (word : String) := Look.word word tokens
  let second (word : String) := Look.second (Look.word word) tokens
  let third (word : String) := Look.third (Look.word word) tokens
  first "pub" ||
    (first "crate" && !Look.second (Look.mark "::") tokens) ||
    first "extern" || first "use" ||
    (first "static" &&
      (second "mut" ||
        (Look.second Look.identifier tokens &&
          !(second "async" && (third "move" || Look.third (Look.mark "|") tokens))))) ||
    (first "const" &&
      !(Look.second (Look.group .brace) tokens || second "static" ||
        (second "async" && !(third "unsafe" || third "extern" || third "fn")) ||
        second "move" || Look.second (Look.mark "|") tokens)) ||
    (first "unsafe" && !Look.second (Look.group .brace) tokens) ||
    (first "async" && (second "unsafe" || second "extern" || second "fn")) ||
    ["fn", "mod", "type", "struct", "enum", "trait", "impl", "macro"].any first ||
    (first "union" && Look.second Look.identifier tokens) ||
    (first "auto" && second "trait") ||
    (first "default" && (second "unsafe" || second "impl"))

def binding : Parse (List Node) := do
  let _ ← Parse.word "let"
  let pattern ← rules.pattern
  let type : List Node ← if ← Parse.mark? ":" then do
      let type ← rules.type .whole
      pure (Node.seq [":", type])
    else pure []
  let value : List Node ← if ← Parse.mark? "=" then do
      let value ← rules.expression true
      let other : List Node ←
        if !value.endsInBrace && (← peekWord "else") then do
          let _ ← Parse.word "else"
          let body ← block rules
          pure (Node.seq ["else", body])
        else pure []
      pure (Node.seq ["=", value.nodes, other])
    else pure []
  Parse.mark ";"
  return Node.seq ["let", pattern.nodes, type, value, ";"]

/-- A macro call with braces that is a statement of its own. -/
def macroStatement : Parse (List Node) := do
  let path ← modulePath
  Parse.mark "!"
  let (delimiter, tokens, _) ← Parse.rawGroup
  let semicolon ← Parse.mark? ";"
  return Node.seq
    [ moduleNodes path, "!", Node.raw [.group delimiter (Token.trees tokens)],
      if semicolon then ";" else [] ]

def expressionStatement (attributes : List Node) : Parse Statement := do
  let expr ← rules.statementExpression
  let nodes := attributes ++ expr.nodes
  if ← Parse.mark? ";" then return ⟨nodes ++ [.word ";"], false⟩
  let whole := match expr.shape with
    | .blockLike => true
    | .macroCall braces => braces
    | _ => false
  return ⟨nodes, !whole⟩

def statement : Parse Statement := do
  let start ← get
  let attributes ← outerAttributes rules
  let macroFront ← macroFront
  match macroFront with
  | .braces => return ⟨attributes ++ (← macroStatement), false⟩
  | .item =>
    set start
    return ⟨← rules.item, false⟩
  | .none =>
    if (← peekWord "let") && !(← peek Look.invisible) then
      return ⟨attributes ++ (← binding rules), false⟩
    else if ← peek beginsItem then
      set start
      return ⟨← rules.item, false⟩
    else
      expressionStatement rules attributes

/-- Statements to the end of the group, with the semicolons that stand alone. -/
def statementsLoop : Nat → Parse (List Node)
  | 0 => Parse.expected "statement"
  | turns + 1 => do
    if ← Parse.mark? ";" then return Node.seq [";", ← statementsLoop turns]
    if ← Parse.isEmpty then return []
    let first ← statement rules
    if ← Parse.isEmpty then return first.nodes
    if first.mustEnd then Parse.fail (.refused "unexpected token, expected `;`")
    return first.nodes ++ (← statementsLoop turns)

def statements : Parse (List Node) := do
  statementsLoop rules (← Parse.budget)

end SlotSum.Grammar
