import SlotSum.Source.Term
import SlotSum.Text.Replace

/-!
Payload types: what an optional type holds, the text by which two of them are compared, and the
text by which one is shown. Groups and parentheses around a type do not count.
-/

namespace SlotSum.Ty

/-- A type without the groups and parentheses around it. -/
def bare : Ty → Ty
  | group inner => inner.bare
  | paren inner => inner.bare
  | other => other

@[simp] theorem bare_group (inner : Ty) : (group inner).bare = inner.bare := rfl

@[simp] theorem bare_paren (inner : Ty) : (paren inner).bare = inner.bare := rfl

/-- Removing groups and parentheses once removes all of them. -/
theorem bare_bare : (type : Ty) → type.bare.bare = type.bare
  | group inner => by simpa using bare_bare inner
  | paren inner => by simpa using bare_bare inner
  | path .. => rfl
  | projection .. => rfl
  | reference .. => rfl
  | slice .. => rfl
  | array .. => rfl
  | tuple .. => rfl
  | never => rfl
  | composite .. => rfl

/-- The paths under which the optional type is known. -/
def isOptionalPath (rooted : Bool) (before : List Segment) : Bool :=
  before.all (fun segment => segment.arguments.isNone) &&
    match before.map Segment.name with
    | [] => !rooted
    | names => names == ["std", "option"] || names == ["core", "option"]

def soleArgument? : Arguments → Option Ty
  | .angle _ [.type payload] _ => some payload
  | _ => none

def payload? (type : Ty) : Option Ty :=
  match type.bare with
  | path rooted segments =>
    match segments.getLast? with
    | some last =>
      if last.name == "Option" && isOptionalPath rooted segments.dropLast then
        soleArgument? last.arguments
      else
        none
    | none => none
  | _ => none

/-- The text by which types are compared. -/
def key (type : Ty) : String := type.bare.text

/-- Spellings that are tightened where a type is shown, in the order in which they are. -/
def tightenings : List (String × String) :=
  [ (" :: ", "::"), (":: ", "::"), (" < ", "<"), ("< ", "<"), (" <", "<"), (" >", ">"), (" ,", ","),
    ("& ", "&"), (" ;", ";"), ("[ ", "["), (" ]", "]"), ("( ", "("), (" )", ")") ]

/-- The text by which a type is shown. -/
def display (type : Ty) : String :=
  String.ofList
    (tightenings.foldl (fun text (loose, tight) => Text.replace loose tight text) type.key.toList)

mutual

/-- A parameter itself, a reference to one, or a box around one. The rules of coherence count these
as not covered by any type of their own. -/
def isUncovered (params : List String) : Ty → Bool
  | group inner => inner.isUncovered params
  | paren inner => inner.isUncovered params
  | reference _ _ inner => inner.isUncovered params
  | path _ segments => uncoveredPath params true segments
  | projection .. => false
  | slice _ => false
  | array .. => false
  | tuple .. => false
  | never => false
  | composite .. => false

/-- The last segment decides; `sole` tells that no segment stands before it. -/
def uncoveredPath (params : List String) (sole : Bool) : List Segment → Bool
  | [] => false
  | [.mk name arguments] =>
    if sole && arguments.isNone then params.contains name
    else name == "Box" && uncoveredArguments params arguments
  | _ :: next :: rest => uncoveredPath params false (next :: rest)

/-- The first of the arguments is an uncovered type. -/
def uncoveredArguments (params : List String) : Arguments → Bool
  | .angle _ (first :: _) _ => uncoveredArgument params first
  | _ => false

def uncoveredArgument (params : List String) : Argument → Bool
  | .type inner => inner.isUncovered params
  | _ => false

end

end SlotSum.Ty
