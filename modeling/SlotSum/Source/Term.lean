import SlotSum.Token.Located

/-!
The terms of a source text. Types are kept by shape, because slots are compared by their types.
Everything else is a concrete term: its parts stand in the order in which they print, so that the
printed form is read off by walking them. Inside a concrete term only types, attributes, literals
and the declarations that may carry options keep a shape of their own.
-/

namespace SlotSum

/-- What follows the path of an attribute. -/
inductive AttributeArgument where
  | absent
  | list (delimiter : Delimiter) (tokens : List Token) (closing : Span)
  | value (equals : Span)
  deriving Repr, Inhabited

/-- An attribute apart from the expression that it may assign. -/
structure AttributeHead where
  inner : Bool
  /-- The path begins with a double colon. -/
  rooted : Bool
  path : List Name
  argument : AttributeArgument
  /-- From the path to the end of its argument. -/
  metaSpan : Span
  span : Span
  deriving Repr, Inhabited

/-- Type forms that are kept as concrete terms. -/
inductive Form where
  | pointer
  | function
  | traitObject
  | existential
  | inferred
  | macroCall
  | verbatim
  deriving DecidableEq, Repr, Inhabited

/-- Declarations on which options are read. -/
inductive Declared where
  | struct
  | field
  deriving DecidableEq, Repr, Inhabited

mutual

inductive Ty where
  /-- A type in an invisible group. -/
  | group (inner : Ty)
  | paren (inner : Ty)
  | path (rooted : Bool) (segments : List Segment)
  /-- `<subject as owner>::rest`, or `<subject>::rest` when it is not qualified by an owner. -/
  | projection (subject : Ty) (qualified rooted : Bool) (owner rest : List Segment)
  | reference (lifetime : Option String) (mutable : Bool) (inner : Ty)
  | slice (inner : Ty)
  | array (inner : Ty) (length : List Node)
  | tuple (elements : List Ty) (trailing : Bool)
  | never
  | composite (form : Form) (parts : List Node)

inductive Segment where
  | mk (name : String) (arguments : Arguments)

inductive Arguments where
  | none
  | angle (turbofish : Bool) (arguments : List Argument) (trailing : Bool)
  | round (parts : List Node)

inductive Argument where
  | lifetime (name : String)
  | type (type : Ty)
  | const (parts : List Node)
  | binding (parts : List Node)

inductive Node where
  | word (text : String)
  /-- Tokens that are printed as they were written. -/
  | raw (trees : List Tree)
  /-- A group; an invisible one prints as its parts. -/
  | group (delimiter : Delimiter) (parts : List Node)
  | type (type : Ty)
  /-- A type that is meant but not written. -/
  | implied (type : Ty)
  | arguments (arguments : Arguments)
  | literal (attributes : List Node) (negative : Bool) (text : String)
  | attribute (head : AttributeHead) (value : List Node)
  | declared (declared : Declared) (attributes parts : List Node)

end

instance : Inhabited Ty := ⟨.never⟩
instance : Inhabited Node := ⟨.raw []⟩
instance : Inhabited Arguments := ⟨.none⟩

instance : Coe String Node := ⟨.word⟩
instance : Coe String (List Node) := ⟨fun text => [.word text]⟩
instance : Coe Node (List Node) := ⟨fun node => [node]⟩
instance : Coe Ty (List Node) := ⟨fun type => [.type type]⟩

/-- Concrete terms in a row. -/
def Node.seq (parts : List (List Node)) : List Node := parts.flatten

namespace Segment

def name : Segment → String
  | mk name _ => name

def arguments : Segment → Arguments
  | mk _ arguments => arguments

def withArguments (segment : Segment) (arguments : Arguments) : Segment := mk segment.name arguments

end Segment

namespace Arguments

/-- Neither brackets nor parentheses follow the segment. -/
def isNone : Arguments → Bool
  | none => true
  | angle _ _ _ => false
  | round _ => false

/-- Nothing stands between the brackets, if there are any. -/
def isEmpty : Arguments → Bool
  | none => true
  | angle _ arguments _ => arguments.isEmpty
  | round _ => false

end Arguments

/-! ### Printing -/

/-- Whether a comma stands after each of several elements: after all but the last, and after the
last if the list has a trailing one. -/
def withCommas (trailing : Bool) : List α → List (α × Bool)
  | [] => []
  | [last] => [(last, trailing)]
  | first :: rest => (first, true) :: withCommas trailing rest

/-- Puts a comma before an element that follows one without a comma of its own. -/
def settle (comma : List α) (settled : Bool) : List (List α × Bool) → List α
  | [] => []
  | (part, own) :: rest =>
    (if settled then [] else comma) ++ part ++ (if own then comma else []) ++
      settle comma own rest

/-- Parameters or arguments between angle brackets: lifetimes are printed before all others. Each
keeps the comma behind it, and one is put in where a lifetime that came last had none. -/
def lifetimesFirst (comma : List α) (trailing : Bool) (parts : List (Bool × List α)) : List α :=
  let marked := withCommas trailing parts
  let ordered := marked.filter (·.1.1) ++ marked.filter (!·.1.1)
  settle comma true (ordered.map fun ((_, part), own) => (part, own))

/-- Elements with commas between them and possibly one at the end. -/
def listed (comma : List α) (trailing : Bool) (parts : List (List α)) : List α :=
  settle comma true (withCommas trailing parts)

/-- A double colon in front of a path. -/
def rootMark (rooted : Bool) : List Tree := if rooted then "::" else []

namespace AttributeHead

def pathTrees (head : AttributeHead) : List Tree :=
  let names : List (List Tree) := head.path.map fun name => [.leaf name.text false]
  Tree.seq [rootMark head.rooted, Tree.seq (names.intersperse [.leaf "::" false])]

/-- An attribute around the trees of the expression that it may assign. -/
def enclose (head : AttributeHead) (value : List Tree) : List Tree :=
  let argument : List Tree :=
    match head.argument with
    | .absent => []
    | .list delimiter tokens _ => [.group delimiter (Token.trees tokens)]
    | .value _ => Tree.seq ["=", value]
  Tree.seq
    ["#", if head.inner then "!" else [], Tree.brackets (Tree.seq [head.pathTrees, argument])]

end AttributeHead

mutual

def Ty.trees : Ty → List Tree
  | .group inner => inner.trees
  | .paren inner => [Tree.parens inner.trees]
  | .path rooted segments => Tree.seq [rootMark rooted, Segment.treesAll segments]
  | .projection subject qualified rooted owner rest =>
    let inside := if qualified then Tree.seq ["as", rootMark rooted, Segment.treesAll owner] else []
    Tree.seq ["<", subject.trees, inside, ">", "::", Segment.treesAll rest]
  | .reference lifetime mutable inner =>
    let lifetime := match lifetime with | some name => (name : List Tree) | none => []
    Tree.seq ["&", lifetime, if mutable then "mut" else [], inner.trees]
  | .slice inner => [Tree.brackets inner.trees]
  | .array inner length => [Tree.brackets (Tree.seq [inner.trees, ";", Node.treesAll length])]
  | .tuple elements trailing => [Tree.parens (listed "," trailing (Ty.treesEach elements))]
  | .never => "!"
  | .composite _ parts => Node.treesAll parts

def Ty.treesEach : List Ty → List (List Tree)
  | [] => []
  | first :: rest => first.trees :: Ty.treesEach rest

def Segment.trees : Segment → List Tree
  | .mk name arguments => Tree.seq [name, arguments.trees]

def Segment.treesAll : List Segment → List Tree
  | [] => []
  | [last] => last.trees
  | first :: rest => Tree.seq [first.trees, "::", Segment.treesAll rest]

def Arguments.trees : Arguments → List Tree
  | .none => []
  | .angle turbofish arguments trailing =>
    Tree.seq
      [rootMark turbofish, "<", lifetimesFirst "," trailing (Argument.treesEach arguments), ">"]
  | .round parts => Node.treesAll parts

/-- The printed forms of several arguments, with a mark on those that are lifetimes. -/
def Argument.treesEach : List Argument → List (Bool × List Tree)
  | [] => []
  | .lifetime name :: rest => (true, name) :: Argument.treesEach rest
  | .type type :: rest => (false, type.trees) :: Argument.treesEach rest
  | .const parts :: rest => (false, Node.treesAll parts) :: Argument.treesEach rest
  | .binding parts :: rest => (false, Node.treesAll parts) :: Argument.treesEach rest

def Node.trees : Node → List Tree
  | .word text => text
  | .raw trees => trees
  | .group .invisible parts => Node.treesAll parts
  | .group .paren parts => [Tree.parens (Node.treesAll parts)]
  | .group .bracket parts => [Tree.brackets (Node.treesAll parts)]
  | .group .brace parts => [Tree.braces (Node.treesAll parts)]
  | .type type => type.trees
  | .implied _ => []
  | .arguments arguments => arguments.trees
  | .literal attributes negative text =>
    Tree.seq [Node.treesAll attributes, if negative then "-" else [], text]
  | .attribute head value => head.enclose (Node.treesAll value)
  | .declared _ attributes parts => Tree.seq [Node.treesAll attributes, Node.treesAll parts]

def Node.treesAll : List Node → List Tree
  | [] => []
  | first :: rest => first.trees ++ Node.treesAll rest

end

def Argument.trees (argument : Argument) : List Tree :=
  (Argument.treesEach [argument]).flatMap (·.2)

def Ty.text (type : Ty) : String := Tree.renderAll type.trees

end SlotSum
