import SlotSum.Expansion.Wire

/-!
Putting an expansion together. The functions of all requested parts share one implementation; the
traits stand next to it, and an unnamed constant around them keeps their helpers out of sight.
-/

namespace SlotSum

/-- What a request adds: functions of the owner, or traits that it implements. -/
structure Part where
  functions : List Function
  implementations : List Implementation
  deriving Inhabited

namespace Part

def methods (functions : List Function) : Part := ⟨functions, []⟩

def traits (implementations : List Implementation) : Part := ⟨[], implementations⟩

def trees (part : Part) : List Tree :=
  part.functions.flatMap Function.trees ++ part.implementations.flatMap Implementation.trees

end Part

structure Expansion where
  own : Implementation
  implementations : List Implementation
  deriving Inhabited

namespace Expansion

def trees (expansion : Expansion) : List Tree :=
  let body := expansion.own.trees ++ expansion.implementations.flatMap Implementation.trees
  Tree.seq ["const", "_", ":", Tree.parens [], "=", Tree.braces body, ";"]

end Expansion

namespace Schema

/-- What a request adds, whether or not the plan asks for it. -/
def part (schema : Schema) (plan : Plan) : Request → Part
  | .constructor => .methods [schema.constructorFunction]
  | .factories => .methods schema.factories
  | .accessors => .methods schema.accessors
  | .dispatch => .methods schema.dispatch
  | .introspection => .traits [schema.introspection]
  | .conversions => .traits (schema.conversions plan)
  | .equality => .traits (schema.equality plan.equalities)
  | .serde => .traits schema.wire

def expansionFor (schema : Schema) (plan : Plan) (requests : List Request) : Expansion :=
  let parts := requests.map (schema.part plan)
  { own :=
      { attributes := allowAttribute "dead_code", generics := schema.generics, ofTrait := none
        target := schema.ownerTrees
        members := (parts.flatMap Part.functions).map .function }
    implementations := parts.flatMap Part.implementations }

def expansion (schema : Schema) (plan : Plan) : Expansion :=
  schema.expansionFor plan plan.requests

end Schema

end SlotSum
