import SlotSum.Source.Cursor
import SlotSum.Source.Term

/-!
The productions that call each other. A production never calls itself: it is given the rules one
level further in, and the rules of a level are built from those of the level below. What a
production returns says no more about an expression or pattern than later productions ask for.
-/

namespace SlotSum

/-- What later productions ask about an expression. -/
inductive ExprShape where
  /-- A path, and whether it has neither a qualified owner nor arguments. -/
  | path (qualified plain : Bool)
  | range
  | comparison
  /-- A form that ends with its own braces and stands as a statement without a semicolon. -/
  | blockLike
  /-- An invisible group; `blockLike` if it holds such a form. -/
  | grouped (blockLike : Bool)
  | macroCall (braces : Bool)
  | verbatim
  | other
  deriving DecidableEq, Repr, Inhabited

structure Expr where
  nodes : List Node
  shape : ExprShape
  /-- Its last token closes a brace of its own. -/
  endsInBrace : Bool
  deriving Inhabited

namespace Expr

def plain (nodes : List Node) : Expr := ⟨nodes, .other, false⟩

def isRange (expr : Expr) : Bool := expr.shape = .range

def withAttributes (expr : Expr) (attributes : List Node) : Expr :=
  match attributes with
  | [] => expr
  | _ =>
    match expr.nodes with
    | [.literal own negative text] =>
      { expr with nodes := [.literal (attributes ++ own) negative text] }
    | nodes => { expr with nodes := attributes ++ nodes }

/-- Looking through invisible groups, a form that needs no semicolon. -/
def endsStatement (expr : Expr) : Bool :=
  match expr.shape with
  | .blockLike => true
  | .grouped blockLike => blockLike
  | _ => false

end Expr

/-- What later productions ask about a pattern. -/
inductive PatternShape where
  | rest
  /-- A range without a lower or an upper bound. -/
  | openRange
  | other
  deriving DecidableEq, Repr, Inhabited

structure Pattern where
  nodes : List Node
  shape : PatternShape
  deriving Inhabited

/-- Whether a type may go on with `+`, and whether an invisible group may take arguments. -/
structure TypeMode where
  plus : Bool
  groupArguments : Bool
  deriving DecidableEq, Repr

def TypeMode.whole : TypeMode := ⟨true, true⟩

def TypeMode.withoutPlus : TypeMode := ⟨false, true⟩

/-- The productions of one level. -/
structure Rules where
  type : TypeMode → Parse Ty
  arguments : Parse Arguments
  /-- An operand with the operators before and behind it; `true` lets in structure literals. -/
  operand : Bool → Parse Expr
  /-- An expression from the lowest precedence on. -/
  expression : Bool → Parse Expr
  /-- An operand followed by operators of at least the given precedence. -/
  continued : Bool → Expr → Nat → Parse Expr
  /-- An expression at the front of a statement or match arm. -/
  statementExpression : Parse Expr
  pattern : Parse Pattern
  statements : Parse (List Node)
  useTree : Bool → Parse (Option (List Node))
  item : Parse (List Node)

def Rules.none : Rules where
  type _ := Parse.expected "type"
  arguments := Parse.expected "`<`"
  operand _ := Parse.expected "an expression"
  expression _ := Parse.expected "an expression"
  continued _ _ _ := Parse.expected "an expression"
  statementExpression := Parse.expected "an expression"
  pattern := Parse.expected "pattern"
  statements := Parse.expected "statement"
  useTree _ := Parse.expected "identifier"
  item := Parse.expected "item"

instance : Inhabited Rules := ⟨Rules.none⟩

end SlotSum
