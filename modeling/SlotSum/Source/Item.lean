import SlotSum.Source.Term

/-!
Declarations: the items that are looked into, with their parts by name, and how they print. All
other items are kept as concrete terms.
-/

namespace SlotSum

inductive Visibility where
  | inherited
  | pub
  /-- Visible within what the parentheses name. -/
  | restricted (parts : List Node)
  deriving Inhabited

namespace Visibility

def nodes : Visibility → List Node
  | inherited => []
  | pub => "pub"
  | restricted parts => Node.seq ["pub", Node.group .paren parts]

def isInherited : Visibility → Bool
  | inherited => true
  | pub => false
  | restricted _ => false

end Visibility

inductive GenericParam where
  | lifetime (attributes : List Node) (name : String) (bounds : List Node)
  | type (attributes : List Node) (name : String) (bounds default : List Node)
  | const (attributes : List Node) (name : String) (type : Ty) (default : List Node)
  deriving Inhabited

/-- What a list of parameters is printed for. -/
inductive GenericRole where
  /-- A declaration with its defaults. -/
  | declaration
  /-- The head of an implementation: defaults are left out. -/
  | implementation
  /-- The arguments of the declared type: names only. -/
  | arguments
  deriving DecidableEq

namespace GenericParam

def isLifetime : GenericParam → Bool
  | lifetime .. => true
  | type .. => false
  | const .. => false

def name : GenericParam → String
  | lifetime _ name _ => name
  | type _ name _ _ => name
  | const _ name _ _ => name

/-- A part behind the mark that introduces it, if there is such a part. -/
def introduced (mark : String) (parts : List Node) : List Node :=
  if parts.isEmpty then [] else Node.word mark :: parts

def nodes (role : GenericRole) : GenericParam → List Node
  | lifetime attributes name bounds =>
    if role = .arguments then name
    else Node.seq [attributes, name, introduced ":" bounds]
  | type attributes name bounds default =>
    if role = .arguments then name
    else
      Node.seq
        [ attributes, name, introduced ":" bounds,
          if role = .declaration then introduced "=" default else [] ]
  | const attributes name paramType default =>
    if role = .arguments then name
    else
      Node.seq
        [ attributes, "const", name, ":", paramType,
          if role = .declaration then introduced "=" default else [] ]

end GenericParam

structure Generics where
  params : List GenericParam
  trailing : Bool
  predicates : List (List Node)
  predicatesTrailing : Bool
  deriving Inhabited

namespace Generics

def empty : Generics := ⟨[], false, [], false⟩

/-- Parameters between angle brackets; nothing if there are none. -/
def nodes (generics : Generics) (role : GenericRole) : List Node :=
  if generics.params.isEmpty then []
  else
    let parts := generics.params.map fun param => (param.isLifetime, param.nodes role)
    Node.seq ["<", lifetimesFirst "," generics.trailing parts, ">"]

/-- The where clause; nothing if it has no predicates. -/
def whereNodes (generics : Generics) : List Node :=
  if generics.predicates.isEmpty then []
  else Node.seq ["where", listed "," generics.predicatesTrailing generics.predicates]

def typeParams (generics : Generics) : List String :=
  generics.params.filterMap fun param => match param with
    | .type _ name _ _ => some name
    | .lifetime .. => none
    | .const .. => none

end Generics

structure Field where
  attributes : List Node
  visibility : Visibility
  name : Option Name
  type : Ty
  deriving Inhabited

namespace Field

def node (field : Field) : Node :=
  let name : List Node := match field.name with
    | some name => Node.seq [name.text, ":"]
    | none => []
  .declared .field field.attributes (Node.seq [field.visibility.nodes, name, field.type])

end Field

inductive Fields where
  | named (fields : List Field) (trailing : Bool)
  | positional (fields : List Field) (trailing : Bool)
  | unit
  deriving Inhabited

namespace Fields

def nodes : Fields → List Node
  | named fields trailing =>
    Node.group .brace (listed "," trailing (fields.map fun field => [field.node]))
  | positional fields trailing =>
    Node.group .paren (listed "," trailing (fields.map fun field => [field.node]))
  | unit => []

end Fields

structure StructItem where
  attributes : List Node
  visibility : Visibility
  name : Name
  generics : Generics
  fields : Fields
  deriving Inhabited

namespace StructItem

/-- The where clause stands before braces, but behind parentheses and before the semicolon. -/
def body (item : StructItem) : List Node :=
  match item.fields with
  | .named .. => Node.seq [item.generics.whereNodes, item.fields.nodes]
  | .positional .. => Node.seq [item.fields.nodes, item.generics.whereNodes, ";"]
  | .unit => Node.seq [item.generics.whereNodes, ";"]

def node (item : StructItem) : Node :=
  .declared .struct item.attributes
    (Node.seq
      [ item.visibility.nodes, "struct", item.name.text, item.generics.nodes .declaration,
        item.body ])

end StructItem

/-- A parameter of a function: its own value, or a pattern with a type. -/
inductive Input where
  | receiver (nodes : List Node)
  | typed (attributes pattern : List Node) (type : Ty)
  deriving Inhabited

namespace Input

def nodes : Input → List Node
  | receiver nodes => nodes
  | typed attributes pattern type => Node.seq [attributes, pattern, ":", type]

end Input

structure Signature where
  /-- What stands before `fn`. -/
  qualifiers : List Node
  name : Name
  generics : Generics
  inputs : List Input
  trailing : Bool
  /-- The dots that stand for further parameters. -/
  variadic : List Node
  output : List Node
  span : Span
  deriving Inhabited

namespace Signature

def hasReceiver (signature : Signature) : Bool :=
  match signature.inputs with
  | .receiver _ :: _ => true
  | _ => false

def inputNodes (signature : Signature) : List Node :=
  let inputs := listed "," signature.trailing (signature.inputs.map Input.nodes)
  let comma : List Node :=
    if signature.variadic.isEmpty || signature.inputs.isEmpty || signature.trailing then [] else ","
  Node.seq [inputs, comma, signature.variadic]

def nodes (signature : Signature) : List Node :=
  Node.seq
    [ signature.qualifiers, "fn", signature.name.text, signature.generics.nodes .declaration,
      Node.group .paren signature.inputNodes, signature.output, signature.generics.whereNodes ]

end Signature

inductive Member where
  | function (before : List Node) (signature : Signature) (body : List Node)
  | other (nodes : List Node)
  deriving Inhabited

namespace Member

def nodes : Member → List Node
  | function before signature body => Node.seq [before, signature.nodes, body]
  | other nodes => nodes

end Member

structure ImplItem where
  /-- What stands before the type that is implemented for. -/
  before : List Node
  ofTrait : Bool
  selfType : Ty
  generics : Generics
  innerAttributes : List Node
  members : List Member
  span : Span
  deriving Inhabited

namespace ImplItem

def nodes (item : ImplItem) : List Node :=
  Node.seq
    [ item.before, item.selfType, item.generics.whereNodes,
      Node.group .brace (item.innerAttributes ++ item.members.flatMap Member.nodes) ]

end ImplItem

inductive Item where
  | struct (item : StructItem)
  | impl (item : ImplItem)
  | other (nodes : List Node) (span : Span)
  deriving Inhabited

namespace Item

def nodes : Item → List Node
  | struct item => item.node
  | impl item => item.nodes
  | other nodes _ => nodes

end Item

end SlotSum
