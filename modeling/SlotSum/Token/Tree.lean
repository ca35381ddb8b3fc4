/-!
Token trees and their printed form. A tree carries no position: it is what an expansion is made of
and what two texts are compared by. Printing puts one space between neighbours, except after a
punctuation character that is joined to the next one.
-/

namespace SlotSum

/-- The brackets of a group. Macro expansion leaves invisible groups around the fragments it
inserts; they print as their contents. -/
inductive Delimiter where
  | paren
  | bracket
  | brace
  | invisible
  deriving DecidableEq, Repr, Inhabited

/-- A printed token: a leaf that may be joined to its right neighbour, or a delimited group. -/
inductive Tree where
  | leaf (text : String) (joint : Bool)
  | group (delimiter : Delimiter) (inner : List Tree)
  deriving Repr, Inhabited

instance : Coe String Tree := ⟨fun text => .leaf text false⟩

instance : Coe Tree (List Tree) := ⟨fun tree => [tree]⟩

instance : Coe String (List Tree) := ⟨fun text => [.leaf text false]⟩

namespace Tree

/-- Only a leaf can be joined to what follows it. -/
def joint : Tree → Bool
  | leaf _ joint => joint
  | group _ _ => false

def parens (inner : List Tree) : Tree := .group .paren inner

def brackets (inner : List Tree) : Tree := .group .bracket inner

def braces (inner : List Tree) : Tree := .group .brace inner

/-- What stands between a tree and the trees after it. -/
def gap (first : Tree) : List Tree → String
  | [] => ""
  | _ :: _ => if first.joint then "" else " "

/-- Brackets hug their contents, braces keep a space on either side. -/
def enclose : Delimiter → Bool → String → String
  | .paren, _, inner => "(" ++ inner ++ ")"
  | .bracket, _, inner => "[" ++ inner ++ "]"
  | .brace, true, _ => "\x7b \x7d"
  | .brace, false, inner => "\x7b " ++ inner ++ " \x7d"
  | .invisible, _, inner => inner

mutual

def render : Tree → String
  | leaf text _ => text
  | group delimiter inner => enclose delimiter inner.isEmpty (renderAll inner)

def renderAll : List Tree → String
  | [] => ""
  | first :: rest => first.render ++ (gap first rest ++ renderAll rest)

end

def seq (parts : List (List Tree)) : List Tree := parts.flatten

/-- The parts of a text between its spaces. -/
def atSpaces : List Char → List (List Char)
  | [] => [[]]
  | c :: rest =>
    if c = ' ' then [] :: atSpaces rest
    else
      match atSpaces rest with
      | [] => [[c]]
      | word :: others => (c :: word) :: others

/-- The words of a text that are separated by single spaces, each a leaf of its own. -/
def words (text : String) : List Tree :=
  (atSpaces text.toList).map fun word => .leaf (String.ofList word) false

/-- Trees separated by commas, without one at the end. -/
def commaSeparated : List (List Tree) → List Tree
  | [] => []
  | [last] => last
  | first :: rest => seq [first, ",", commaSeparated rest]

/-- Trees with a comma after each. -/
def commaTerminated (parts : List (List Tree)) : List Tree :=
  parts.flatMap fun part => seq [part, ","]

end Tree

end SlotSum
