import SlotSum.Source.Grammar.Declaration

/-!
Items. Structures and implementations are read into their parts, all others into concrete terms.
An item that is well-formed but stands for nothing that can be named here, such as a function
without a body, is kept as it was written.
-/

namespace SlotSum.Grammar

open Token (Look)
open Parse (peek peekWord peekMark peekGroup)

variable (rules : Rules)

/-- Items and members: what has been read, or that it is to be kept as it was written. -/
inductive Kept where
  | nodes (nodes : List Node)
  | asWritten

/-- Attributes, whether inner ones follow between braces, and statements: the body of a function. -/
def functionBody : Parse Node := blockWithAttributes rules

/-- A macro call as an item: its name, an identifier behind it, and a semicolon unless it ends with
a brace. -/
def macroItem (named : Bool) : Parse (List Node) := do
  let path ← modulePath
  Parse.mark "!"
  let name : List Node ←
    if named && ((← peek Look.identifier) || (← peekWord "try")) then do
      let name ← Parse.anyWord
      pure [Node.word name.text]
    else pure []
  let (delimiter, tokens, _) ← Parse.rawGroup
  let call := Node.seq
    [moduleNodes path, "!", name, Node.raw [.group delimiter (Token.trees tokens)]]
  if delimiter = .brace then return call
  Parse.mark ";"
  return Node.seq [call, ";"]

def beginsMacro : Look := fun tokens =>
  Look.identifier tokens || pathKeyword ["self", "super", "crate"] tokens || Look.mark "::" tokens

/-! ### Imports -/

/-- An imported path, or nothing if it restarts at the root inside braces. -/
def useTree (root : Bool) : Parse (Option (List Node)) := do
  let starts : Look := fun tokens =>
    Look.identifier tokens || pathKeyword ["self", "super", "crate", "try"] tokens
  if ← peek starts then
    let name ← Parse.anyWord
    if ← Parse.mark? "::" then
      let rest ← rules.useTree false
      return rest.map fun rest => Node.seq [name.text, "::", rest]
    else if ← Parse.word? "as" then
      let rename ← if ← peekWord "_" then Parse.anyWord else Parse.identifier
      return some (Node.seq [name.text, "as", rename.text])
    else
      return some name.text
  else if ← Parse.mark? "*" then
    return some "*"
  else
    let trees ← Parse.group .brace do
      Parse.separated "," do
        let restarts ← if root then Parse.mark? "::" else pure false
        let tree ← rules.useTree (root && !restarts)
        return if restarts then none else tree
    if trees.elements.all Option.isSome then
      return some (Node.group .brace (trees.nodes "," fun tree => tree.getD []))
    else
      return none

def useItem : Parse Kept := do
  let _ ← Parse.word "use"
  let rooted ← Parse.mark? "::"
  let tree ← rules.useTree (!rooted)
  Parse.mark ";"
  match tree with
  | some tree => return .nodes (Node.seq ["use", if rooted then "::" else [], tree, ";"])
  | none => return .asWritten

/-! ### Constants and types -/

def staticItem : Parse Kept := do
  let _ ← Parse.word "static"
  let mutable ← Parse.word? "mut"
  let name ← Parse.identifier
  if ← Parse.mark? "=" then
    let _ ← rules.expression true
    Parse.mark ";"
    return .asWritten
  Parse.mark ":"
  let type ← rules.type .whole
  if ← Parse.mark? ";" then return .asWritten
  Parse.mark "="
  let value ← rules.expression true
  Parse.mark ";"
  return .nodes
    (Node.seq
      ["static", if mutable then "mut" else [], name.text, ":", type, "=", value.nodes, ";"])

/-- A constant without its keyword. In a trait it needs no value; with parameters or a where clause
it is kept as it was written. -/
def constantRest (needsValue : Bool) : Parse Kept := do
  let name ← if ← peekWord "_" then Parse.anyWord else Parse.identifier
  let parameterized ← peekMark "<"
  let _ ← genericParams rules
  Parse.mark ":"
  let type ← rules.type .whole
  let value : Option Expr ←
    if ← Parse.mark? "=" then some <$> rules.expression true else pure none
  let constrained ← peekWord "where"
  let _ ← withWhere rules .empty
  Parse.mark ";"
  if parameterized || constrained || (needsValue && value.isNone) then return .asWritten
  let value : List Node := match value with
    | some value => Node.seq ["=", value.nodes]
    | none => []
  return .nodes (Node.seq ["const", name.text, ":", type, value, ";"])

inductive WherePlace where
  | beforeEquals
  | afterEquals
  deriving DecidableEq

structure TypeDefinition where
  name : String
  generics : Generics
  colon : Bool
  bounds : List Node
  definition : Option Ty

/-- A type with its bounds and definition, each of which may be missing. -/
def typeDefinition (place : WherePlace) : Parse TypeDefinition := do
  let _ ← Parse.word "type"
  let name ← Parse.identifier
  let generics ← genericParams rules
  let colon ← Parse.mark? ":"
  let stop : Look := fun tokens =>
    Look.word "where" tokens || Look.mark "=" tokens || Look.mark ";" tokens
  let bounds ← if colon then do
      let bounds ← Parse.separatedUntil "+" (peek stop) (bound rules false true)
      pure (boundNodes bounds)
    else pure []
  let generics ← if place = .beforeEquals then withWhere rules generics else pure generics
  let definition : Option Ty ←
    if ← Parse.mark? "=" then some <$> rules.type .whole else pure none
  let generics ← if place = .afterEquals then withWhere rules generics else pure generics
  Parse.mark ";"
  return { name := name.text, generics, colon, bounds, definition }

def typeItem (place : WherePlace) : Parse Kept := do
  let found ← typeDefinition rules place
  match found.definition with
  | none => return .asWritten
  | some type =>
    if found.colon then return .asWritten
    let head := Node.seq ["type", found.name, found.generics.nodes .declaration]
    let definition := Node.seq ["=", type]
    let whereNodes := found.generics.whereNodes
    if place = .beforeEquals then return .nodes (Node.seq [head, whereNodes, definition, ";"])
    else return .nodes (Node.seq [head, definition, whereNodes, ";"])

/-! ### Enumerations and unions -/

def variant : Parse (List Node) := do
  let attributes ← outerAttributes rules
  let _ ← visibility
  let name ← Parse.identifier
  let fields ← if ← peekGroup .brace then namedFields rules
    else if ← peekGroup .paren then positionalFields rules
    else pure .unit
  let value : List Node ←
    if ← Parse.mark? "=" then do
      let value ← rules.expression true
      pure (Node.seq ["=", value.nodes])
    else pure []
  return Node.seq [attributes, name.text, fields.nodes, value]

def enumItem : Parse (List Node) := do
  let _ ← Parse.word "enum"
  let name ← Parse.identifier
  let generics ← genericParams rules
  let generics ← withWhere rules generics
  let variants ← Parse.group .brace (Parse.separated "," (variant rules))
  return Node.seq
    [ "enum", name.text, generics.nodes .declaration, generics.whereNodes,
      Node.group .brace (variants.nodes "," id) ]

def unionItem : Parse (List Node) := do
  let _ ← Parse.word "union"
  let name ← Parse.identifier
  let generics ← genericParams rules
  let generics ← withWhere rules generics
  let fields ← namedFields rules
  return Node.seq
    ["union", name.text, generics.nodes .declaration, generics.whereNodes, fields.nodes]

/-! ### Traits -/

/-- Puts back what was read, or the tokens as they were written. -/
def orAsWritten (before : List Token) (head : List Node) : Kept → Parse (List Node)
  | .nodes nodes => return head ++ nodes
  | .asWritten => return [.raw (← Parse.since before)]

def traitFunction : Parse (List Node) := do
  let signature ← signature rules false
  if ← peekGroup .brace then
    let body ← functionBody rules
    return Node.seq [signature.nodes, body]
  else
    Parse.mark ";"
    return Node.seq [signature.nodes, ";"]

def traitType : Parse (List Node) := do
  let found ← typeDefinition rules .afterEquals
  let definition : List Node := match found.definition with
    | some type => Node.seq ["=", type]
    | none => []
  let bounds := GenericParam.introduced ":" found.bounds
  return Node.seq
    [ "type", found.name, found.generics.nodes .declaration, bounds, definition,
      found.generics.whereNodes, ";" ]

/-- A member of a trait. With a visibility or a `default` it is kept as it was written. -/
def traitMember : Parse (List Node) := do
  let before := (← get).tokens
  let attributes ← outerAttributes rules
  let visibility ← visibility
  let default ← Parse.word? "default"
  let found : Kept ←
    if ← beginsFunction false then .nodes <$> traitFunction rules
    else if ← Parse.word? "const" then constantRest rules false
    else if ← peekWord "type" then .nodes <$> traitType rules
    else if visibility.isInherited && !default && (← peek beginsMacro) then
      .nodes <$> macroItem false
    else Parse.expected "trait item"
  if visibility.isInherited && !default then orAsWritten before attributes found
  else orAsWritten before [] .asWritten

/-- The members of a trait or block between braces, behind its inner attributes. -/
def memberGroup (member : Parse (List Node)) : Parse Node := do
  let contents ← Parse.group .brace do
    let attributes ← innerAttributes rules
    let members ← Parse.many (return !(← Parse.isEmpty)) member
    return attributes ++ members.flatten
  return .group .brace contents

def traitItem (aliases : Bool) : Parse (List Node) := do
  let unsafety ← Parse.word? "unsafe"
  let auto ← Parse.word? "auto"
  let _ ← Parse.word "trait"
  let name ← Parse.identifier
  let generics ← genericParams rules
  let head := Node.seq
    [ if unsafety then "unsafe" else [], if auto then "auto" else [], "trait", name.text,
      generics.nodes .declaration ]
  if aliases && (← peekMark "=") then
    Parse.mark "="
    let stop : Look := fun tokens => Look.word "where" tokens || Look.mark ";" tokens
    let bounds ← Parse.separatedUntil "+" (peek stop) (bound rules false true)
    let generics ← withWhere rules generics
    Parse.mark ";"
    return Node.seq [head, "=", boundNodes bounds, generics.whereNodes, ";"]
  else
    let stop : Look := fun tokens => Look.word "where" tokens || Look.group .brace tokens
    let bounds ← if ← Parse.mark? ":" then do
        let bounds ← Parse.separatedUntil "+" (peek stop) (bound rules false true)
        pure (boundNodes bounds)
      else pure []
    let generics ← withWhere rules generics
    let members ← memberGroup rules (traitMember rules)
    return Node.seq [head, GenericParam.introduced ":" bounds, generics.whereNodes, members]

/-! ### Implementations -/

def implMember : Parse Member := do
  let before := (← get).tokens
  let attributes ← outerAttributes rules
  let visibility ← visibility
  let default := (← peekWord "default") && !(← peek (Look.second (Look.mark "!")))
  if default then
    let _ ← Parse.word "default"
  let head := Node.seq [attributes, visibility.nodes, if default then "default" else []]
  let written : Parse Member := return .other [.raw (← Parse.since before)]
  if ← beginsFunction false then
    let signature ← signature rules false
    if ← Parse.mark? ";" then written
    else return .function head signature (← functionBody rules)
  else if ← Parse.word? "const" then
    return .other (← orAsWritten before head (← constantRest rules true))
  else if ← peekWord "type" then
    return .other (← orAsWritten before head (← typeItem rules .afterEquals))
  else if visibility.isInherited && !default && (← peek beginsMacro) then
    return .other (Node.seq [head, ← macroItem false])
  else
    Parse.expected "impl item"

/-- Angle brackets behind `impl` open generic parameters rather than a qualified path. -/
def beginsGenerics : Look := fun tokens =>
  Look.mark "<" tokens &&
    (Look.second (Look.mark ">") tokens || Look.second (Look.mark "#") tokens ||
      ((Look.second Look.lifetime tokens || Look.second Look.identifier tokens) &&
        (Look.third (Look.mark ">") tokens || Look.third (Look.mark ",") tokens ||
          (Look.third (Look.mark ":") tokens && !Look.third (Look.mark "::") tokens) ||
          Look.third (Look.mark "=") tokens)) ||
      Look.second (Look.word "const") tokens)

/-- Strips the invisible groups around a type. -/
def ungrouped : Ty → Ty
  | .group inner => ungrouped inner
  | other => other

/-- The trait that an implementation is of, if the type before `for` is a path. -/
def traitPath? (type : Ty) : Option (List Node) :=
  match ungrouped type with
  | .path rooted segments => some (Path.mk rooted segments).nodes
  | _ => none

/-- An implementation behind its attributes; one that stands for no inherent or trait
implementation is kept as it was written. -/
def implRest (attributes : List Node) (visible : Bool) : Parse (Option ImplItem) := do
  let default ← Parse.word? "default"
  let unsafety ← Parse.word? "unsafe"
  let _ ← Parse.word "impl"
  let generics ← if ← peek beginsGenerics then genericParams rules else pure .empty
  let constant := (← peekWord "const") ||
    ((← peekMark "?") && (← peek (Look.second (Look.word "const"))))
  if constant then
    let _ ← Parse.mark? "?"
    let _ ← Parse.word "const"
  let negative := (← peekMark "!") && !(← peek (Look.second (Look.group .brace)))
  if negative then Parse.mark "!"
  let first ← rules.type .whole
  let isFor ← Parse.word? "for"
  let polarity : List Node := if negative then "!" else []
  let path := if isFor then traitPath? first else none
  let traitNodes : List Node := match path with
    | some path => Node.seq [polarity, path, "for"]
    | none => []
  let selfType ←
    if isFor then rules.type .whole
    else if negative then
      pure (Ty.composite .verbatim [.raw (Tree.seq ["!", first.trees])])
    else pure first
  let generics ← withWhere rules generics
  let (inner, members) ← Parse.group .brace do
    let inner ← innerAttributes rules
    let members ← Parse.many (return !(← Parse.isEmpty)) (implMember rules)
    return (inner, members)
  if visible || constant || (isFor && path.isNone) then return none
  let before := Node.seq
    [ attributes, if default then "default" else [], if unsafety then "unsafe" else [], "impl",
      generics.nodes .declaration, traitNodes ]
  return some
    { before, ofTrait := path.isSome, selfType, generics, innerAttributes := inner, members,
      span := .callSite }

/-! ### Modules and foreign items -/

def moduleItem : Parse (List Node) := do
  let unsafety ← Parse.word? "unsafe"
  let _ ← Parse.word "mod"
  let name ← Parse.identifier
  let head := Node.seq [if unsafety then "unsafe" else [], "mod", name.text]
  if ← Parse.mark? ";" then return Node.seq [head, ";"]
  return Node.seq [head, ← memberGroup rules rules.item]

def externCrate : Parse (List Node) := do
  let _ ← Parse.word "extern"
  let _ ← Parse.word "crate"
  let name ← if ← peekWord "self" then Parse.anyWord else Parse.identifier
  let rename : List Node ←
    if ← Parse.word? "as" then do
      let rename ← if ← peekWord "_" then Parse.anyWord else Parse.identifier
      pure (Node.seq ["as", rename.text])
    else pure []
  Parse.mark ";"
  return Node.seq ["extern", "crate", name.text, rename, ";"]

def foreignMember : Parse (List Node) := do
  let before := (← get).tokens
  let attributes ← outerAttributes rules
  let visibility ← visibility
  let head := attributes ++ visibility.nodes
  if ← beginsFunction true then
    let signature ← signature rules true
    let safe := signature.qualifiers.any fun node => match node with
      | .word "safe" => true
      | _ => false
    if ← peekGroup .brace then
      let _ ← functionBody rules
      return [.raw (← Parse.since before)]
    Parse.mark ";"
    if safe then return [.raw (← Parse.since before)]
    return Node.seq [head, signature.nodes, ";"]
  else
    let qualified := ((← peekWord "unsafe") || (← peekWord "safe")) &&
      (← peek (Look.second (Look.word "static")))
    if qualified then
      let _ ← Parse.anyWord
    if ← Parse.word? "static" then
      let mutable ← Parse.word? "mut"
      let name ← Parse.identifier
      Parse.mark ":"
      let type ← rules.type .whole
      let valued ← Parse.mark? "="
      if valued then
        let _ ← rules.expression true
      Parse.mark ";"
      if qualified || valued then return [.raw (← Parse.since before)]
      return Node.seq
        [head, "static", if mutable then "mut" else [], name.text, ":", type, ";"]
    else if ← peekWord "type" then
      let found ← typeDefinition rules .beforeEquals
      if found.colon || found.definition.isSome then return [.raw (← Parse.since before)]
      return Node.seq
        [ head, "type", found.name, found.generics.nodes .declaration, found.generics.whereNodes,
          ";" ]
    else if visibility.isInherited && (← peek beginsMacro) then
      return Node.seq [head, ← macroItem false]
    else
      Parse.expected "foreign item"

def foreignBlock : Parse (List Node) := do
  let unsafety ← Parse.word? "unsafe"
  let convention ← convention?
  let members ← memberGroup rules (foreignMember rules)
  return Node.seq [if unsafety then "unsafe" else [], convention, members]

/-! ### Items -/

/-- A macro definition of the newer kind, kept as it was written. -/
def macroDefinition : Parse Kept := do
  let _ ← Parse.word "macro"
  let _ ← Parse.identifier
  let skip (delimiter : Delimiter) : Parse Bool := do
    match Token.front (← get).tokens with
    | .group found inner opening closing :: rest =>
      if found = delimiter then
        Parse.advance (.group found inner opening closing) rest
        return true
      else
        return false
    | _ => return false
  let _ ← skip .paren
  unless ← skip .brace do Parse.expected "curly braces"
  return .asWritten

/-- What stands behind the attributes and visibility of an item. -/
inductive ItemBody where
  | struct (item : StructItem)
  | impl (item : ImplItem)
  | kept (kept : Kept)

def unsafeItem (attributes : List Node) (visible : Bool) : Parse ItemBody := do
  let second (word : String) := peek (Look.second (Look.word word))
  if (← second "trait") || (← second "auto") then .kept <$> .nodes <$> traitItem rules false
  else if ← second "impl" then
    match ← implRest rules attributes visible with
    | some item => return .impl item
    | none => return .kept .asWritten
  else if ← second "extern" then .kept <$> .nodes <$> foreignBlock rules
  else if ← second "mod" then .kept <$> .nodes <$> moduleItem rules
  else Parse.expected "item"

def externItem : Parse (List Node) := do
  if ← peek (Look.second (Look.word "crate")) then externCrate
  else foreignBlock rules

def itemBody (attributes : List Node) (visibility : Visibility) : Parse ItemBody := do
  let visible := !visibility.isInherited
  let kept (production : Parse Kept) : Parse ItemBody := .kept <$> production
  let plain (production : Parse (List Node)) : Parse ItemBody := .kept <$> .nodes <$> production
  if ← beginsFunction false then
    let signature ← signature rules false
    if ← Parse.mark? ";" then return .kept .asWritten
    let body ← functionBody rules
    return .kept (.nodes (Node.seq [signature.nodes, body]))
  else if ← peekWord "extern" then plain (externItem rules)
  else if ← peekWord "use" then kept (useItem rules)
  else if ← peekWord "static" then kept (staticItem rules)
  else if ← Parse.word? "const" then kept (constantRest rules true)
  else if ← peekWord "unsafe" then unsafeItem rules attributes visible
  else if ← peekWord "mod" then plain (moduleItem rules)
  else if ← peekWord "type" then kept (typeItem rules .beforeEquals)
  else if ← peekWord "struct" then .struct <$> structRest rules attributes visibility
  else if ← peekWord "enum" then plain (enumItem rules)
  else if (← peekWord "union") && (← peek (Look.second Look.identifier)) then
    plain (unionItem rules)
  else if ← peekWord "trait" then plain (traitItem rules true)
  else if (← peekWord "auto") && (← peek (Look.second (Look.word "trait"))) then
    plain (traitItem rules false)
  else if (← peekWord "impl") ||
      ((← peekWord "default") && !(← peek (Look.second (Look.mark "!")))) then
    match ← implRest rules attributes visible with
    | some item => return .impl item
    | none => return .kept .asWritten
  else if ← peekWord "macro" then kept macroDefinition
  else if !visible && (← peek beginsMacro) then plain (macroItem true)
  else Parse.expected "item"

def item : Parse Item := do
  let before := (← get).tokens
  let (found, span) ← Parse.spanned do
    let attributes ← outerAttributes rules
    let visibility ← visibility
    let body ← itemBody rules attributes visibility
    match body with
    | .struct item => return Item.struct item
    | .impl item => return .impl item
    | .kept kept =>
      let nodes ← orAsWritten before (attributes ++ visibility.nodes) kept
      return .other nodes .callSite
  match found with
  | .struct item => return .struct item
  | .impl item => return .impl { item with span }
  | .other nodes _ => return .other nodes span

def items : Parse (List Item) := Parse.many (return !(← Parse.isEmpty)) (item rules)

end SlotSum.Grammar
