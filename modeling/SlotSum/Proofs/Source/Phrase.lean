import SlotSum.Proofs.Source.Reading

/-!
The printed form of types, as a grammar of its own. A type is read back from what it prints where it
holds no macro calls and no trait object without its keyword, and where the expressions in it are read
back from what they print. Where a colon stands behind a name, no double colon follows it: the two
would be joined.
-/

namespace SlotSum

open Token (Look)

namespace Symbol

/-- A double colon in front of a path. -/
def root (rooted : Bool) : List Symbol := if rooted then [.operator "::"] else []

/-- A keyword that may be there. -/
def modifier (present : Bool) (keyword : String) : List Symbol :=
  if present then [.word keyword] else []

def path (parts : List (List Symbol)) : List Symbol := listed [.operator "::"] false parts

def commas (trailing : Bool) (parts : List (List Symbol)) : List Symbol :=
  listed [.operator ","] trailing parts

def sum (parts : List (List Symbol)) : List Symbol := listed [.operator "+"] false parts

def lifetimes (names : List String) : List (List Symbol) := names.map fun name => [.lifetime name]

/-- The lifetimes that a `for` binds, if there is one. -/
def binder : Option (List String × Bool) → List Symbol
  | none => []
  | some (names, trailing) =>
    .word "for" :: .operator "<" :: (commas trailing (lifetimes names) ++ [.operator ">"])

/-- The calling convention of a function, if there is one, which may be named. -/
def convention : Option (Option String) → List Symbol
  | none => []
  | some none => [.word "extern"]
  | some (some name) => [.word "extern", .literal name]

end Symbol

open SlotSum.Symbol (root modifier path commas sum lifetimes binder convention)

/-- A name that may stand in a path with arguments behind it. -/
def IsName (name : String) : Prop := Token.isKeyword name = false ∨ name = "Self"

/-- A segment of a path that takes no arguments. -/
def IsStep (name : String) : Prop := IsName name ∨ name ∈ ["super", "self", "crate"]

/-- The spelling of a text literal. -/
def IsText (literal : String) : Prop := ∃ c ∈ literal.toList.head?, c = '"' ∨ c = 'r'

/-! ### Reading -/

/-- At every level with room for the tokens that spell the symbols, the production takes them and
gives such a value, wherever it may stop behind them. -/
def ReadsBack (production : Rules → Parse α) (stops : List Token → Prop) (good : α → Prop)
    (symbols : List Symbol) : Prop :=
  ∀ tokens rest n, Spells symbols tokens → Token.sizes tokens ≤ n → stops rest →
    ∃ value, good value ∧ Parse.Takes (production (.level n)) (tokens ++ rest) rest value

/-- An expression that is read from its symbols and prints them, whatever they are joined to. -/
def IsLength (symbols : List Symbol) : Prop :=
  ReadsBack (fun rules => Grammar.expression (.above fun _ => rules) true) (· = [])
    (fun length => Node.treesAll length.nodes = Symbol.trees symbols) symbols

/-- A constant between angle brackets. What a block in braces holds is read like a length. -/
inductive IsConstant : List Symbol → Prop
  | literal (text : String) : IsConstant [.literal text]
  | negative (digit : Look.startsWithDigit text = true) : IsConstant [.operator "-", .literal text]
  | boolean (member : text ∈ ["true", "false"]) : IsConstant [.word text]
  | block (reads : ReadsBack (fun rules => Grammar.blockWithAttributes (.above fun _ => rules))
      (fun _ => True) (fun block => block.trees = [(Symbol.group .brace contents).tree])
      [.group .brace contents]) : IsConstant [.group .brace contents]

/-! ### The grammar -/

inductive PhraseKind where
  /-- A type; `plus` tells that it may have several bounds. -/
  | type (plus : Bool)
  /-- A type that is not in parentheses. -/
  | plain (plus : Bool)
  | path
  | segment
  | argument
  | bounds (plus : Bool)
  | bound
  /-- A trait with its modifiers. -/
  | trait
  | input
  | output

inductive Phrase : PhraseKind → List Symbol → Prop
  | bare (plain : Phrase (.plain plus) symbols) : Phrase (.type plus) symbols
  | paren (inner : Phrase (.type true) symbols) : Phrase (.type plus) [.group .paren symbols]
  | path (rooted : Bool) (path : Phrase .path symbols) :
      Phrase (.plain plus) (root rooted ++ symbols)
  | projection (subject : Phrase (.type true) contents) (path : Phrase .path symbols) :
      Phrase (.plain plus)
        (.operator "<" :: (contents ++ .operator ">" :: .operator "::" :: symbols))
  | qualified (rooted : Bool) (subject : Phrase (.type true) contents) (owner : Phrase .path trait)
      (path : Phrase .path symbols) :
      Phrase (.plain plus)
        (.operator "<" :: (contents ++ .word "as" ::
          (root rooted ++ (trait ++ .operator ">" :: .operator "::" :: symbols))))
  | reference (lifetime : Option String) (mutable : Bool) (inner : Phrase (.type false) symbols) :
      Phrase (.plain plus)
        (.operator "&" :: (lifetime.toList.map .lifetime ++ (modifier mutable "mut" ++ symbols)))
  | slice (inner : Phrase (.type true) symbols) : Phrase (.plain plus) [.group .bracket symbols]
  | array (inner : Phrase (.type true) symbols) (isLength : IsLength length) :
      Phrase (.plain plus) [.group .bracket (symbols ++ .operator ";" :: length)]
  | unit : Phrase (.plain plus) [.group .paren []]
  | tuple (first : Phrase (.type true) symbols) (each : ∀ part ∈ parts, Phrase (.type true) part)
      (trailing : Bool) (comma : parts = [] → trailing = true) :
      Phrase (.plain plus) [.group .paren (commas trailing (symbols :: parts))]
  | never : Phrase (.plain plus) [.operator "!"]
  | inferred : Phrase (.plain plus) [.word "_"]
  | pointer (mutable : Bool) (inner : Phrase (.type false) symbols) :
      Phrase (.plain plus)
        (.operator "*" :: .word (if mutable then "mut" else "const") :: symbols)
  | function (bound : Option (List String × Bool)) (isUnsafe : Bool)
      (abi : Option (Option String)) (text : ∀ name, abi = some (some name) → IsText name)
      (each : ∀ part ∈ parts, Phrase .input part) (trailing : Bool)
      (output : Phrase .output symbols) :
      Phrase (.plain plus)
        (binder bound ++ (modifier isUnsafe "unsafe" ++ (convention abi ++
          .word "fn" :: .group .paren (commas trailing parts) :: symbols)))
  | object (bounds : Phrase (.bounds plus) symbols) : Phrase (.plain plus) (.word "dyn" :: symbols)
  | existential (bounds : Phrase (.bounds plus) symbols) :
      Phrase (.plain plus) (.word "impl" :: symbols)
  | segments (some_ : parts ≠ []) (each : ∀ part ∈ parts, Phrase .segment part) :
      Phrase .path (Symbol.path parts)
  | step (isStep : IsStep name) : Phrase .segment [.word name]
  | angle (isName : IsName name) (turbofish trailing : Bool) (names : List String)
      (each : ∀ part ∈ parts, Phrase .argument part) :
      Phrase .segment
        (.word name :: (root turbofish ++
          .operator "<" :: (commas trailing (lifetimes names ++ parts) ++ [.operator ">"])))
  | typeArgument (type : Phrase (.type true) symbols) : Phrase .argument symbols
  | constant (isConstant : IsConstant symbols) : Phrase .argument symbols
  | binding (head : Phrase .segment name) (type : Phrase (.type true) symbols) :
      Phrase .argument (name ++ .operator "=" :: symbols)
  | constantBinding (head : Phrase .segment name) (isConstant : IsConstant symbols) :
      Phrase .argument (name ++ .operator "=" :: symbols)
  | constraint (head : Phrase .segment name) (some_ : parts ≠ [])
      (each : ∀ part ∈ parts, Phrase .bound part)
      (apart : ∀ rest, parts.head? ≠ some (.operator "::" :: rest)) :
      Phrase .argument (name ++ .operator ":" :: sum parts)
  | oneBound (trait : Phrase .trait symbols) : Phrase (.bounds plus) symbols
  | severalBounds (each : ∀ part ∈ parts, Phrase .bound part) (member : symbols ∈ parts)
      (trait : Phrase .trait symbols) : Phrase (.bounds true) (sum parts)
  | outlives (name : String) : Phrase .bound [.lifetime name]
  | traitBound (trait : Phrase .trait symbols) : Phrase .bound symbols
  | traitPath (relaxed : Bool) (bound : Option (List String × Bool)) (rooted : Bool)
      (path : Phrase .path symbols) :
      Phrase .trait
        ((if relaxed then [.operator "?"] else []) ++ (binder bound ++ (root rooted ++ symbols)))
  | traitCall (relaxed : Bool) (bound : Option (List String × Bool)) (rooted : Bool)
      (steps : ∀ part ∈ before, Phrase .segment part) (isName : IsName name)
      (each : ∀ part ∈ parts, Phrase (.type true) part) (trailing : Bool)
      (output : Phrase .output symbols) :
      Phrase .trait
        ((if relaxed then [.operator "?"] else []) ++ (binder bound ++ (root rooted ++
          (Symbol.path (before ++ [[.word name]]) ++
            .group .paren (commas trailing parts) :: symbols))))
  | input (type : Phrase (.type true) symbols) : Phrase .input symbols
  | namedInput (plain : Token.isKeyword name = false ∨ name = "_")
      (type : Phrase (.type true) symbols)
      (apart : ∀ rest, symbols ≠ .operator "::" :: rest) :
      Phrase .input (.word name :: .operator ":" :: symbols)
  | noOutput : Phrase .output []
  | output (type : Phrase (.type false) symbols) : Phrase .output (.operator "->" :: symbols)

end SlotSum
