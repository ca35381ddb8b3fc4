import SlotSum.Payload.Basic
import SlotSum.Source.Mention

/-!
When two payload types might be one. The answer errs on the side of yes: types are told apart only
where their outermost constructors differ for certain, or where parts in the same place are told
apart. Paths are compared from their last segment backwards, because the same type may be reached
by a longer path, and a parameter may stand for any type.
-/

namespace SlotSum.Ty

def isParam (params : List String) : Ty → Bool
  | path false [.mk name .none] => params.contains name
  | _ => false

/-- The constructor of a type, as far as two types can be told apart by it. -/
inductive Kind where
  | path
  | reference
  | slice
  | array
  | tuple
  | never
  | grouped
  | composite (form : Form)
  deriving DecidableEq

def kind : Ty → Kind
  | group _ => .grouped
  | paren _ => .grouped
  | path .. => .path
  | projection .. => .path
  | reference .. => .reference
  | slice _ => .slice
  | array .. => .array
  | tuple .. => .tuple
  | never => .never
  | composite form _ => .composite form

/-- A path that begins with a parameter and goes on: it may be any type. -/
def isProjection (params : List String) (segments : List Segment) : Bool :=
  1 < segments.length && segments.head?.any fun first => params.contains first.name

/-- A path that is `Self`, which stands for any spelling of the owner. -/
def isOwnName (rooted : Bool) : List Segment → Bool
  | [.mk name .none] => !rooted && name == "Self"
  | _ => false

/-- A type whose outermost constructor is certain. -/
def isStructural (params : List String) : Ty → Bool
  | path _ segments => !isProjection params segments
  | reference .. => true
  | slice _ => true
  | array .. => true
  | tuple .. => true
  | never => true
  | composite form _ => form = .pointer || form = .function
  | projection .. => false
  | group _ => false
  | paren _ => false

/-- Types that are compared by their text, unless a parameter occurs in them. -/
def isTextual : Ty → Bool
  | composite form _ => form = .pointer || form = .function || form = .traitObject
  | _ => false

/-- Types that are not compared part by part: they differ if their constructors do, or if both are
compared by their texts and these differ. -/
def looselyOverlap (params : List String) (a b : Ty) : Bool :=
  if a.isStructural params && b.isStructural params && a.kind ≠ b.kind then false
  else if a.kind = b.kind && a.isTextual && !a.mentions params && !b.mentions params then
    a.key == b.key
  else true

/-- Words that lead a path to where the rest of it is looked up. -/
def isLeading (segment : Segment) : Bool :=
  ["crate", "self", "super", "$crate"].contains segment.name

/-- Lengths that differ for certain are two literals with different texts. -/
def lengthsOverlap : List Node → List Node → Bool
  | [.literal _ false a], [.literal _ false b] => a == b
  | _, _ => true

/-- The segment in line with the first of `count` others, where ends are lined up. -/
def opposite (segments : List Segment) (count : Nat) : Option Segment :=
  if segments.length < count then none else (segments.drop (segments.length - count)).head?

mutual

/-- Whether two types could be one for some choice of the parameters. -/
def overlaps (params : List String) : Ty → Ty → Bool
  | group a, b => a.overlaps params b
  | paren a, b => a.overlaps params b
  | path rooted segments, b =>
    (path rooted segments).isParam params || b.bare.isParam params ||
      match b.bare with
      | path rooted' segments' =>
        isOwnName rooted segments || isOwnName rooted' segments' ||
          isProjection params segments || isProjection params segments' ||
          segmentsOverlap params true segments (segments'.dropWhile isLeading)
      | other => looselyOverlap params (path rooted segments) other
  | reference lifetime mutable a, b =>
    b.bare.isParam params ||
      match b.bare with
      | reference _ mutable' b => mutable == mutable' && a.overlaps params b
      | other => looselyOverlap params (reference lifetime mutable a) other
  | slice a, b =>
    b.bare.isParam params ||
      match b.bare with
      | slice b => a.overlaps params b
      | other => looselyOverlap params (slice a) other
  | array a length, b =>
    b.bare.isParam params ||
      match b.bare with
      | array b length' => lengthsOverlap length length' && a.overlaps params b
      | other => looselyOverlap params (array a length) other
  | tuple elements trailing, b =>
    b.bare.isParam params ||
      match b.bare with
      | tuple elements' _ =>
        elements.length == elements'.length && allOverlap params elements elements'
      | other => looselyOverlap params (tuple elements trailing) other
  | never, b => b.bare.isParam params || looselyOverlap params never b.bare
  | projection subject qualified rooted owner rest, b =>
    b.bare.isParam params ||
      looselyOverlap params (projection subject qualified rooted owner rest) b.bare
  | composite form parts, b =>
    b.bare.isParam params || looselyOverlap params (composite form parts) b.bare

/-- Types in the same places overlap; the longer list's further types are not looked at. -/
def allOverlap (params : List String) : List Ty → List Ty → Bool
  | [], _ => true
  | _ :: _, [] => true
  | a :: as, b :: bs => a.overlaps params b && allOverlap params as bs

/-- Segments overlap where their ends are lined up. Leading words of the first path are passed over
while `leading` holds; those of the second have been. -/
def segmentsOverlap (params : List String) (leading : Bool) :
    List Segment → List Segment → Bool
  | [], _ => true
  | first :: rest, segments =>
    if leading && isLeading first then segmentsOverlap params true rest segments
    else
      (match opposite segments (rest.length + 1) with
        | some other => segmentOverlaps params first other
        | none => true) &&
        segmentsOverlap params false rest segments

def segmentOverlaps (params : List String) : Segment → Segment → Bool
  | .mk name arguments, other =>
    name == other.name && argumentsOverlap params arguments other.arguments

def argumentsOverlap (params : List String) : Arguments → Arguments → Bool
  | .none, .none => true
  | .angle _ as _, .angle _ bs _ => as.length == bs.length && allArgumentsOverlap params as bs
  | .round as, .round bs =>
    Tree.renderAll (Node.treesAll as) == Tree.renderAll (Node.treesAll bs)
  | _, _ => false

def allArgumentsOverlap (params : List String) : List Argument → List Argument → Bool
  | [], _ => true
  | _ :: _, [] => true
  | a :: as, b :: bs => argumentOverlaps params a b && allArgumentsOverlap params as bs

/-- Lifetimes always overlap, since an implementation holds for all of them. Arguments that are not
both types or both lifetimes are compared by their texts. -/
def argumentOverlaps (params : List String) : Argument → Argument → Bool
  | .type a, .type b => a.overlaps params b
  | .lifetime _, .lifetime _ => true
  | a, b => Tree.renderAll a.trees == Tree.renderAll b.trees

end

def anyOverlap (params : List String) : List Ty → Bool
  | [] => false
  | first :: rest => rest.any (first.overlaps params) || anyOverlap params rest

end SlotSum.Ty
