import SlotSum.Source.Term

/-!
Removing option attributes. Options are read from structures and fields only, so only there their
attribute is dropped, at any depth; attributes of all other nodes stay, and so do tokens that have
not been read.
-/

namespace SlotSum

/-- The attribute that carries options. -/
def optionName : String := "one_of"

/-- The path of an attribute is one given name and nothing else. -/
def AttributeHead.isNamed (head : AttributeHead) (name : String) : Bool :=
  !head.rooted && (match head.path with | [only] => only.text == name | _ => false)

namespace Node

def head? : Node → Option AttributeHead
  | .attribute head _ => some head
  | _ => none

def carriesOptions (node : Node) : Bool :=
  node.head?.any fun head => head.isNamed optionName

end Node

mutual

def Ty.strip : Ty → Ty
  | .group inner => .group inner.strip
  | .paren inner => .paren inner.strip
  | .path rooted segments => .path rooted (Segment.stripAll segments)
  | .projection subject qualified rooted owner rest =>
    .projection subject.strip qualified rooted (Segment.stripAll owner) (Segment.stripAll rest)
  | .reference lifetime mutable inner => .reference lifetime mutable inner.strip
  | .slice inner => .slice inner.strip
  | .array inner length => .array inner.strip (Node.stripAll length)
  | .tuple elements trailing => .tuple (Ty.stripAll elements) trailing
  | .never => .never
  | .composite form parts => .composite form (Node.stripAll parts)

def Ty.stripAll : List Ty → List Ty
  | [] => []
  | first :: rest => first.strip :: Ty.stripAll rest

def Segment.strip : Segment → Segment
  | .mk name arguments => .mk name arguments.strip

def Segment.stripAll : List Segment → List Segment
  | [] => []
  | first :: rest => first.strip :: Segment.stripAll rest

def Arguments.strip : Arguments → Arguments
  | .none => .none
  | .angle turbofish arguments trailing =>
    .angle turbofish (Argument.stripAll arguments) trailing
  | .round parts => .round (Node.stripAll parts)

def Argument.strip : Argument → Argument
  | .lifetime name => .lifetime name
  | .type type => .type type.strip
  | .const parts => .const (Node.stripAll parts)
  | .binding parts => .binding (Node.stripAll parts)

def Argument.stripAll : List Argument → List Argument
  | [] => []
  | first :: rest => first.strip :: Argument.stripAll rest

/-- The node without option attributes on the declarations in it. -/
def Node.strip : Node → Node
  | .word text => .word text
  | .raw trees => .raw trees
  | .group delimiter parts => .group delimiter (Node.stripAll parts)
  | .type type => .type type.strip
  | .implied type => .implied type.strip
  | .arguments arguments => .arguments arguments.strip
  | .literal attributes negative text => .literal (Node.stripAll attributes) negative text
  | .attribute head value => .attribute head (Node.stripAll value)
  | .declared declared attributes parts =>
    .declared declared (Node.stripOptions attributes) (Node.stripAll parts)

def Node.stripAll : List Node → List Node
  | [] => []
  | first :: rest => first.strip :: Node.stripAll rest

/-- The attributes of a declaration without those that carry options. -/
def Node.stripOptions : List Node → List Node
  | [] => []
  | first :: rest =>
    if first.carriesOptions then Node.stripOptions rest
    else first.strip :: Node.stripOptions rest

end

end SlotSum
