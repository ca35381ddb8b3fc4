import SlotSum.Source.Grammar.Statement

/-!
The grammar as a whole. The rules of a level call those of the level below, so what stands at a
cursor is read with as many levels as the tokens that are left could nest.
-/

namespace SlotSum

/-- The productions of a level, from those of the level below. -/
def Rules.above (below : Unit → Rules) : Rules where
  type mode := fun cursor => Grammar.type (below ()) mode cursor
  arguments := fun cursor => Grammar.angleArguments (below ()) cursor
  operand structures := fun cursor => Grammar.operand (below ()) structures cursor
  expression structures := fun cursor => Grammar.expression (below ()) structures cursor
  continued structures left lowest := fun cursor =>
    Grammar.continued (below ()) structures left lowest cursor
  statementExpression := fun cursor => Grammar.statementExpression (below ()) cursor
  pattern := fun cursor => Grammar.pattern (below ()) cursor
  statements := fun cursor => Grammar.statements (below ()) cursor
  useTree root := fun cursor => Grammar.useTree (below ()) root cursor
  item := fun cursor => (do return (← Grammar.item (below ())).nodes : Parse (List Node)) cursor

/-- Rules with a number of levels below them. -/
def Rules.level : Nat → Rules
  | 0 => .none
  | depth + 1 => .above fun _ => level depth

/-- Levels that are enough for a token list: each token opens a bounded number of them. -/
def Source.depth (tokens : List Token) : Nat := 16 * Token.sizes tokens + 64

/-- The rules that fit the tokens that are left. -/
def Rules.fitting (cursor : Cursor) : Rules := .level (Source.depth cursor.tokens)

/-- The productions of the whole grammar. What they make of a cursor does not depend on the tokens
before it. -/
def Rules.whole : Rules where
  type mode := fun cursor => (Rules.fitting cursor).type mode cursor
  arguments := fun cursor => (Rules.fitting cursor).arguments cursor
  operand structures := fun cursor => (Rules.fitting cursor).operand structures cursor
  expression structures := fun cursor => (Rules.fitting cursor).expression structures cursor
  continued structures left lowest := fun cursor =>
    (Rules.fitting cursor).continued structures left lowest cursor
  statementExpression := fun cursor => (Rules.fitting cursor).statementExpression cursor
  pattern := fun cursor => (Rules.fitting cursor).pattern cursor
  statements := fun cursor => (Rules.fitting cursor).statements cursor
  useTree root := fun cursor => (Rules.fitting cursor).useTree root cursor
  item := fun cursor => (Rules.fitting cursor).item cursor

namespace Source

def read (production : Rules → Parse α) (tokens : List Token) : Except Fault α :=
  Parse.run (production .whole) tokens

def type (tokens : List Token) : Except Fault Ty :=
  read (fun rules => rules.type .whole) tokens

def item (tokens : List Token) : Except Fault Item := read Grammar.item tokens

def items (tokens : List Token) : Except Fault (List Item) := read Grammar.items tokens

def word (tokens : List Token) : Except Fault Name := read (fun _ => Parse.anyWord) tokens

def attributes (tokens : List Token) : Except Fault (List Node) :=
  read Grammar.outerAttributes tokens

end Source

end SlotSum
