import SlotSum.Source.Item
import SlotSum.Token.Quoted

/-!
Code that is generated. Functions keep their names and parameters and implementations their traits
and generics by name, because generated names must not clash; everything else is trees.
-/

namespace SlotSum

structure Binder where
  name : String
  bound : List Tree
  deriving Inhabited

namespace Binder

def trees (binder : Binder) : List Tree :=
  Tree.seq [binder.name, if binder.bound.isEmpty then [] else Tree.seq [":", binder.bound]]

end Binder

/-- How a generated function takes the value it is called on. -/
inductive Receiver where
  | absent
  | shared
  | owned
  deriving DecidableEq, Repr, Inhabited

namespace Receiver

/-- At most one entry of a parameter list. -/
def entries : Receiver → List (List Tree)
  | absent => []
  | shared => [Tree.words "& self"]
  | owned => [Tree.words "self"]

end Receiver

structure Parameter where
  mutable : Bool
  name : String
  type : List Tree
  deriving Inhabited

namespace Parameter

def trees (parameter : Parameter) : List Tree :=
  Tree.seq [if parameter.mutable then "mut" else [], parameter.name, ":", parameter.type]

end Parameter

structure Function where
  /-- Attributes and visibility. -/
  before : List Tree
  name : String
  binders : List Binder
  receiver : Receiver
  parameters : List Parameter
  /-- A comma stands after the last parameter. -/
  trailing : Bool
  /-- The arrow with the returned type, and the where clause. -/
  after : List Tree
  body : List Tree
  deriving Inhabited

namespace Function

def binderTrees (function : Function) : List Tree :=
  if function.binders.isEmpty then []
  else Tree.seq ["<", Tree.commaSeparated (function.binders.map Binder.trees), ">"]

def trees (function : Function) : List Tree :=
  let inputs := function.receiver.entries ++ function.parameters.map Parameter.trees
  Tree.seq
    [ function.before, "fn", function.name, function.binderTrees,
      Tree.parens (listed "," function.trailing inputs), function.after,
      Tree.braces function.body ]

end Function

/-- A member of a generated implementation. -/
inductive GeneratedMember where
  | function (function : Function)
  | other (trees : List Tree)
  deriving Inhabited

namespace GeneratedMember

def trees : GeneratedMember → List Tree
  | function generated => generated.trees
  | other trees => trees

end GeneratedMember

/-- A trait that is implemented: its path, the name that ends the path, and its arguments. -/
structure TraitPath where
  before : List Tree
  name : String
  arguments : List Tree
  deriving Inhabited

namespace TraitPath

def trees (path : TraitPath) : List Tree := Tree.seq [path.before, path.name, path.arguments]

end TraitPath

structure Implementation where
  attributes : List Tree
  generics : Generics
  ofTrait : Option TraitPath
  target : List Tree
  members : List GeneratedMember
  deriving Inhabited

namespace Implementation

def functions (implementation : Implementation) : List Function :=
  implementation.members.filterMap fun member => match member with
    | .function generated => some generated
    | .other _ => none

def trees (implementation : Implementation) : List Tree :=
  let ofTrait := match implementation.ofTrait with
    | some path => Tree.seq [path.trees, "for"]
    | none => []
  Tree.seq
    [ implementation.attributes, "impl",
      Node.treesAll (implementation.generics.nodes .implementation), ofTrait,
      implementation.target, Node.treesAll implementation.generics.whereNodes,
      Tree.braces (implementation.members.flatMap GeneratedMember.trees) ]

end Implementation

def docAttribute (literal : String) : List Tree :=
  Tree.seq ["#", Tree.brackets (Tree.seq ["doc", "=", literal])]

def allowAttribute (lint : String) : List Tree :=
  Tree.seq ["#", Tree.brackets (Tree.seq ["allow", Tree.parens (Tree.words lint)])]

def callOf (function : List Tree) (arguments : List (List Tree)) : List Tree :=
  Tree.seq [function, Tree.parens (Tree.commaSeparated arguments)]

def libraryPath (name : String) : List Tree := Tree.words (":: oneof :: " ++ name)

/-- A name that generated code reaches through the library, so that nothing can shadow it. -/
def hiddenPath (name : String) : List Tree := Tree.words (":: oneof :: __private :: " ++ name)

def optionalOf (payload : List Tree) : List Tree :=
  Tree.seq [hiddenPath "Option", "<", payload, ">"]

def presentOf (payload : List Tree) : List Tree :=
  callOf (hiddenPath "Option :: Some") [payload]

def absent : List Tree := hiddenPath "Option :: None"

def successOf (value : List Tree) : List Tree := callOf (hiddenPath "Result :: Ok") [value]

def failureOf (value : List Tree) : List Tree := callOf (hiddenPath "Result :: Err") [value]

def resultOf (success failure : List Tree) : List Tree :=
  Tree.seq [hiddenPath "Result", "<", success, ",", failure, ">"]

end SlotSum
