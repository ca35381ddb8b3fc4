import SlotSum.Source.Term

/-!
Whether a type mentions a name. A name is mentioned where a path type without root and qualified
owner begins with it, wherever that type stands: in arguments, bounds, array lengths, and in the
expressions and items inside them. Paths that are no types, such as a trait in a bound, mention
nothing themselves.
-/

namespace SlotSum

/-- A path without root that begins with one of several names. -/
def beginsWithAny (names : List String) (rooted : Bool) (segments : List Segment) : Bool :=
  !rooted && segments.head?.any fun first => names.contains first.name

mutual

def Ty.mentions (names : List String) : Ty → Bool
  | .group inner => inner.mentions names
  | .paren inner => inner.mentions names
  | .path rooted segments =>
    beginsWithAny names rooted segments || Segment.anyMentions names segments
  | .projection subject _ _ owner rest =>
    subject.mentions names || Segment.anyMentions names owner || Segment.anyMentions names rest
  | .reference _ _ inner => inner.mentions names
  | .slice inner => inner.mentions names
  | .array inner length => inner.mentions names || Node.anyMentions names length
  | .tuple elements _ => Ty.anyMentions names elements
  | .never => false
  | .composite _ parts => Node.anyMentions names parts

def Ty.anyMentions (names : List String) : List Ty → Bool
  | [] => false
  | first :: rest => first.mentions names || Ty.anyMentions names rest

def Segment.mentions (names : List String) : Segment → Bool
  | .mk _ arguments => arguments.mentions names

def Segment.anyMentions (names : List String) : List Segment → Bool
  | [] => false
  | first :: rest => first.mentions names || Segment.anyMentions names rest

def Arguments.mentions (names : List String) : Arguments → Bool
  | .none => false
  | .angle _ arguments _ => Argument.anyMentions names arguments
  | .round parts => Node.anyMentions names parts

def Argument.mentions (names : List String) : Argument → Bool
  | .lifetime _ => false
  | .type type => type.mentions names
  | .const parts => Node.anyMentions names parts
  | .binding parts => Node.anyMentions names parts

def Argument.anyMentions (names : List String) : List Argument → Bool
  | [] => false
  | first :: rest => first.mentions names || Argument.anyMentions names rest

def Node.mentions (names : List String) : Node → Bool
  | .word _ => false
  | .raw _ => false
  | .group _ parts => Node.anyMentions names parts
  | .type type => type.mentions names
  | .implied type => type.mentions names
  | .arguments arguments => arguments.mentions names
  | .literal attributes _ _ => Node.anyMentions names attributes
  | .attribute _ value => Node.anyMentions names value
  | .declared _ attributes parts =>
    Node.anyMentions names attributes || Node.anyMentions names parts

def Node.anyMentions (names : List String) : List Node → Bool
  | [] => false
  | first :: rest => first.mentions names || Node.anyMentions names rest

end

end SlotSum
