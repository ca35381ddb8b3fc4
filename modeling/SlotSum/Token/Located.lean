import SlotSum.Token.Tree

/-!
Tokens with the place in the text they came from. Lines count from one, columns from zero in
characters, and the end of a span is the first position after it.
-/

namespace SlotSum

structure Position where
  line : Nat
  column : Nat
  deriving DecidableEq, Repr, Inhabited

namespace Position

def start : Position := ⟨1, 0⟩

def after (position : Position) (c : Char) : Position :=
  if c = '\n' then ⟨position.line + 1, 0⟩ else ⟨position.line, position.column + 1⟩

def advance (position : Position) (text : List Char) : Position :=
  text.foldl after position

end Position

structure Span where
  start : Position
  stop : Position
  deriving DecidableEq, Repr, Inhabited

namespace Span

/-- The empty span at the beginning, for what no part of the text is to blame for. -/
def callSite : Span := ⟨.start, .start⟩

/-- From the beginning of one span to the end of another. -/
def through (first last : Span) : Span := ⟨first.start, last.stop⟩

end Span

/-- An identifier where it stands, with its `r#` if it was written raw. -/
structure Name where
  text : String
  span : Span
  deriving DecidableEq, Repr, Inhabited

/-- A token of a text. A word is an identifier or keyword; a mark is one punctuation character,
joint when another one follows it directly; an apostrophe mark stands before a lifetime name. -/
inductive Token where
  | word (name : Name)
  | mark (char : Char) (joint : Bool) (span : Span)
  | literal (text : String) (span : Span)
  | group (delimiter : Delimiter) (inner : List Token) (opening closing : Span)
  deriving Repr, Inhabited

namespace Token

/-- Where a token begins: a group begins with its opening delimiter. -/
def opening : Token → Span
  | word name => name.span
  | mark _ _ span => span
  | literal _ span => span
  | group _ _ opening _ => opening

/-- Where a token ends: a group ends with its closing delimiter. -/
def closing : Token → Span
  | word name => name.span
  | mark _ _ span => span
  | literal _ span => span
  | group _ _ _ closing => closing

mutual

def tree : Token → Tree
  | word name => .leaf name.text false
  | mark char joint _ => .leaf (String.singleton char) joint
  | literal text _ => .leaf text false
  | group delimiter inner _ _ => .group delimiter (trees inner)

def trees : List Token → List Tree
  | [] => []
  | first :: rest => first.tree :: trees rest

end

mutual

/-- How many tokens a token holds, itself included. -/
def size : Token → Nat
  | word _ => 1
  | mark _ _ _ => 1
  | literal _ _ => 1
  | group _ inner _ _ => 1 + sizes inner

def sizes : List Token → Nat
  | [] => 0
  | first :: rest => first.size + sizes rest

end

end Token

end SlotSum
