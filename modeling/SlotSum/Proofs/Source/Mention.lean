import SlotSum.Source.Mention

/-!
What it takes to be mentioned. A type mentions a name just if a path type without root that begins
with this name stands in it, at whatever depth and in whatever kind of term. Nothing but the first
segment of a path type counts.
-/

namespace SlotSum

/-! ### Types within terms -/

mutual

/-- A type stands within another: it is that type, or it stands within one of its parts. -/
inductive Ty.Within (inner : Ty) : Ty → Prop
  | self : Ty.Within inner inner
  | group (below : Ty.Within inner type) : Ty.Within inner (.group type)
  | paren (below : Ty.Within inner type) : Ty.Within inner (.paren type)
  | path {segment : Segment} (member : segment ∈ segments) (below : Segment.Has inner segment) :
      Ty.Within inner (.path rooted segments)
  | subject (below : Ty.Within inner subject) :
      Ty.Within inner (.projection subject qualified rooted owner rest)
  | owner {segment : Segment} (member : segment ∈ owner) (below : Segment.Has inner segment) :
      Ty.Within inner (.projection subject qualified rooted owner rest)
  | rest {segment : Segment} (member : segment ∈ rest) (below : Segment.Has inner segment) :
      Ty.Within inner (.projection subject qualified rooted owner rest)
  | reference (below : Ty.Within inner type) : Ty.Within inner (.reference lifetime mutable type)
  | slice (below : Ty.Within inner type) : Ty.Within inner (.slice type)
  | element (below : Ty.Within inner type) : Ty.Within inner (.array type length)
  | length (member : node ∈ length) (below : Node.Has inner node) :
      Ty.Within inner (.array type length)
  | tuple (member : type ∈ elements) (below : Ty.Within inner type) :
      Ty.Within inner (.tuple elements trailing)
  | composite (member : node ∈ parts) (below : Node.Has inner node) :
      Ty.Within inner (.composite form parts)

inductive Segment.Has (inner : Ty) : Segment → Prop
  | arguments (below : Arguments.Has inner arguments) : Segment.Has inner (.mk name arguments)

inductive Arguments.Has (inner : Ty) : Arguments → Prop
  | angle (member : argument ∈ arguments) (below : Argument.Has inner argument) :
      Arguments.Has inner (.angle turbofish arguments trailing)
  | round (member : node ∈ parts) (below : Node.Has inner node) :
      Arguments.Has inner (.round parts)

inductive Argument.Has (inner : Ty) : Argument → Prop
  | type (below : Ty.Within inner type) : Argument.Has inner (.type type)
  | const (member : node ∈ parts) (below : Node.Has inner node) : Argument.Has inner (.const parts)
  | binding (member : node ∈ parts) (below : Node.Has inner node) :
      Argument.Has inner (.binding parts)

inductive Node.Has (inner : Ty) : Node → Prop
  | group (member : node ∈ parts) (below : Node.Has inner node) :
      Node.Has inner (.group delimiter parts)
  | type (below : Ty.Within inner type) : Node.Has inner (.type type)
  | implied (below : Ty.Within inner type) : Node.Has inner (.implied type)
  | arguments (below : Arguments.Has inner arguments) : Node.Has inner (.arguments arguments)
  | literal (member : node ∈ attributes) (below : Node.Has inner node) :
      Node.Has inner (.literal attributes negative text)
  | attribute (member : node ∈ value) (below : Node.Has inner node) :
      Node.Has inner (.attribute head value)
  | attributes (member : node ∈ attributes) (below : Node.Has inner node) :
      Node.Has inner (.declared declared attributes parts)
  | parts (member : node ∈ parts) (below : Node.Has inner node) :
      Node.Has inner (.declared declared attributes parts)

end

/-- A path type that begins with one of several names and has no root. -/
def Ty.Begins (names : List String) (type : Ty) : Prop :=
  ∃ first rest, type = .path false (first :: rest) ∧ first.name ∈ names

theorem Ty.begins_path {names : List String} {rooted : Bool} {segments : List Segment} :
    (Ty.path rooted segments).Begins names ↔ beginsWithAny names rooted segments = true := by
  cases segments with
  | nil => simp [Ty.Begins, beginsWithAny]
  | cons first rest => cases rooted <;> simp [Ty.Begins, beginsWithAny]

/-! ### Mentions in lists -/

section

variable {names : List String}

theorem Ty.anyMentions_iff {elements : List Ty} :
    Ty.anyMentions names elements = true ↔ ∃ type ∈ elements, type.mentions names = true := by
  induction elements with
  | nil => simp [Ty.anyMentions]
  | cons first rest ih => simp [Ty.anyMentions, ih]

theorem Segment.anyMentions_iff {segments : List Segment} :
    Segment.anyMentions names segments = true ↔
      ∃ segment ∈ segments, segment.mentions names = true := by
  induction segments with
  | nil => simp [Segment.anyMentions]
  | cons first rest ih => simp [Segment.anyMentions, ih]

theorem Argument.anyMentions_iff {arguments : List Argument} :
    Argument.anyMentions names arguments = true ↔
      ∃ argument ∈ arguments, argument.mentions names = true := by
  induction arguments with
  | nil => simp [Argument.anyMentions]
  | cons first rest ih => simp [Argument.anyMentions, ih]

theorem Node.anyMentions_iff {nodes : List Node} :
    Node.anyMentions names nodes = true ↔ ∃ node ∈ nodes, node.mentions names = true := by
  induction nodes with
  | nil => simp [Node.anyMentions]
  | cons first rest ih => simp [Node.anyMentions, ih]

end

/-! ### What stands within is mentioned -/

section

variable {names : List String} {inner : Ty}

-- by recursion on the place in which the inner type stands
mutual

theorem Ty.mentions_of_within (begins : inner.Begins names) {type : Ty} :
    Ty.Within inner type → type.mentions names = true
  | .self => by
      obtain ⟨first, rest, rfl, known⟩ := begins
      simp [Ty.mentions, beginsWithAny, known]
  | .group below => by simpa [Ty.mentions] using Ty.mentions_of_within begins below
  | .paren below => by simpa [Ty.mentions] using Ty.mentions_of_within begins below
  | .path member below => by
      rw [Ty.mentions, Bool.or_eq_true]
      exact .inr (Segment.anyMentions_iff.mpr ⟨_, member, Segment.mentions_of_has begins below⟩)
  | .subject below => by simp [Ty.mentions, Ty.mentions_of_within begins below]
  | .owner member below => by
      have owner := Segment.anyMentions_iff.mpr ⟨_, member, Segment.mentions_of_has begins below⟩
      simp [Ty.mentions, owner]
  | .rest member below => by
      have rest := Segment.anyMentions_iff.mpr ⟨_, member, Segment.mentions_of_has begins below⟩
      simp [Ty.mentions, rest]
  | .reference below => by simpa [Ty.mentions] using Ty.mentions_of_within begins below
  | .slice below => by simpa [Ty.mentions] using Ty.mentions_of_within begins below
  | .element below => by simp [Ty.mentions, Ty.mentions_of_within begins below]
  | .length member below => by
      have length := Node.anyMentions_iff.mpr ⟨_, member, Node.mentions_of_has begins below⟩
      simp [Ty.mentions, length]
  | .tuple member below => Ty.anyMentions_iff.mpr ⟨_, member, Ty.mentions_of_within begins below⟩
  | .composite member below =>
    Node.anyMentions_iff.mpr ⟨_, member, Node.mentions_of_has begins below⟩

theorem Segment.mentions_of_has (begins : inner.Begins names) {segment : Segment} :
    Segment.Has inner segment → segment.mentions names = true
  | .arguments below => Arguments.mentions_of_has begins below

theorem Arguments.mentions_of_has (begins : inner.Begins names) {arguments : Arguments} :
    Arguments.Has inner arguments → arguments.mentions names = true
  | .angle member below =>
    Argument.anyMentions_iff.mpr ⟨_, member, Argument.mentions_of_has begins below⟩
  | .round member below => Node.anyMentions_iff.mpr ⟨_, member, Node.mentions_of_has begins below⟩

theorem Argument.mentions_of_has (begins : inner.Begins names) {argument : Argument} :
    Argument.Has inner argument → argument.mentions names = true
  | .type below => Ty.mentions_of_within begins below
  | .const member below => Node.anyMentions_iff.mpr ⟨_, member, Node.mentions_of_has begins below⟩
  | .binding member below =>
    Node.anyMentions_iff.mpr ⟨_, member, Node.mentions_of_has begins below⟩

theorem Node.mentions_of_has (begins : inner.Begins names) {node : Node} :
    Node.Has inner node → node.mentions names = true
  | .group member below => Node.anyMentions_iff.mpr ⟨_, member, Node.mentions_of_has begins below⟩
  | .type below => Ty.mentions_of_within begins below
  | .implied below => Ty.mentions_of_within begins below
  | .arguments below => Arguments.mentions_of_has begins below
  | .literal member below =>
    Node.anyMentions_iff.mpr ⟨_, member, Node.mentions_of_has begins below⟩
  | .attribute member below =>
    Node.anyMentions_iff.mpr ⟨_, member, Node.mentions_of_has begins below⟩
  | .attributes member below => by
      have attributes := Node.anyMentions_iff.mpr ⟨_, member, Node.mentions_of_has begins below⟩
      simp [Node.mentions, attributes]
  | .parts member below => by
      have parts := Node.anyMentions_iff.mpr ⟨_, member, Node.mentions_of_has begins below⟩
      simp [Node.mentions, parts]

end

end

/-! ### What is mentioned stands within -/

section

variable {names : List String}

-- by recursion on the type: a mention is either its beginning or in one of its parts
mutual

theorem Ty.within_of_mentions : (type : Ty) → type.mentions names = true →
    ∃ inner : Ty, inner.Begins names ∧ inner.Within type
  | .group inner, mentioned => by
      obtain ⟨found, begins, below⟩ := Ty.within_of_mentions inner mentioned
      exact ⟨found, begins, .group below⟩
  | .paren inner, mentioned => by
      obtain ⟨found, begins, below⟩ := Ty.within_of_mentions inner mentioned
      exact ⟨found, begins, .paren below⟩
  | .path rooted segments, mentioned => by
      rw [Ty.mentions, Bool.or_eq_true] at mentioned
      rcases mentioned with begins | mentioned
      · exact ⟨.path rooted segments, Ty.begins_path.mpr begins, .self⟩
      · obtain ⟨found, begins, segment, member, below⟩ :=
          Segment.hasEach_of_mentions segments mentioned
        exact ⟨found, begins, .path member below⟩
  | .projection subject _ _ owner rest, mentioned => by
      rw [Ty.mentions, Bool.or_eq_true, Bool.or_eq_true] at mentioned
      rcases mentioned with (mentioned | mentioned) | mentioned
      · obtain ⟨found, begins, below⟩ := Ty.within_of_mentions subject mentioned
        exact ⟨found, begins, .subject below⟩
      · obtain ⟨found, begins, segment, member, below⟩ :=
          Segment.hasEach_of_mentions owner mentioned
        exact ⟨found, begins, .owner member below⟩
      · obtain ⟨found, begins, segment, member, below⟩ := Segment.hasEach_of_mentions rest mentioned
        exact ⟨found, begins, .rest member below⟩
  | .reference _ _ inner, mentioned => by
      obtain ⟨found, begins, below⟩ := Ty.within_of_mentions inner mentioned
      exact ⟨found, begins, .reference below⟩
  | .slice inner, mentioned => by
      obtain ⟨found, begins, below⟩ := Ty.within_of_mentions inner mentioned
      exact ⟨found, begins, .slice below⟩
  | .array inner length, mentioned => by
      rw [Ty.mentions, Bool.or_eq_true] at mentioned
      rcases mentioned with mentioned | mentioned
      · obtain ⟨found, begins, below⟩ := Ty.within_of_mentions inner mentioned
        exact ⟨found, begins, .element below⟩
      · obtain ⟨found, begins, node, member, below⟩ := Node.hasEach_of_mentions length mentioned
        exact ⟨found, begins, .length member below⟩
  | .tuple elements _, mentioned => by
      obtain ⟨found, begins, type, member, below⟩ := Ty.withinEach_of_mentions elements mentioned
      exact ⟨found, begins, .tuple member below⟩
  | .never, mentioned => by cases mentioned
  | .composite _ parts, mentioned => by
      obtain ⟨found, begins, node, member, below⟩ := Node.hasEach_of_mentions parts mentioned
      exact ⟨found, begins, .composite member below⟩

theorem Ty.withinEach_of_mentions : (elements : List Ty) →
    Ty.anyMentions names elements = true →
    ∃ inner : Ty, inner.Begins names ∧ ∃ type ∈ elements, inner.Within type
  | [], mentioned => by cases mentioned
  | first :: rest, mentioned => by
      rw [Ty.anyMentions, Bool.or_eq_true] at mentioned
      rcases mentioned with here | later
      · obtain ⟨found, begins, below⟩ := Ty.within_of_mentions first here
        exact ⟨found, begins, first, List.mem_cons_self, below⟩
      · obtain ⟨found, begins, type, member, below⟩ := Ty.withinEach_of_mentions rest later
        exact ⟨found, begins, type, List.mem_cons_of_mem _ member, below⟩

theorem Segment.has_of_mentions : (segment : Segment) → segment.mentions names = true →
    ∃ inner : Ty, inner.Begins names ∧ Segment.Has inner segment
  | .mk _ arguments, mentioned => by
      obtain ⟨found, begins, below⟩ := Arguments.has_of_mentions arguments mentioned
      exact ⟨found, begins, .arguments below⟩

theorem Segment.hasEach_of_mentions : (segments : List Segment) →
    Segment.anyMentions names segments = true →
    ∃ inner : Ty, inner.Begins names ∧ ∃ segment ∈ segments, Segment.Has inner segment
  | [], mentioned => by cases mentioned
  | first :: rest, mentioned => by
      rw [Segment.anyMentions, Bool.or_eq_true] at mentioned
      rcases mentioned with here | later
      · obtain ⟨found, begins, below⟩ := Segment.has_of_mentions first here
        exact ⟨found, begins, first, List.mem_cons_self, below⟩
      · obtain ⟨found, begins, segment, member, below⟩ := Segment.hasEach_of_mentions rest later
        exact ⟨found, begins, segment, List.mem_cons_of_mem _ member, below⟩

theorem Arguments.has_of_mentions : (arguments : Arguments) → arguments.mentions names = true →
    ∃ inner : Ty, inner.Begins names ∧ Arguments.Has inner arguments
  | .none, mentioned => by cases mentioned
  | .angle _ arguments _, mentioned => by
      obtain ⟨found, begins, argument, member, below⟩ :=
        Argument.hasEach_of_mentions arguments mentioned
      exact ⟨found, begins, .angle member below⟩
  | .round parts, mentioned => by
      obtain ⟨found, begins, node, member, below⟩ := Node.hasEach_of_mentions parts mentioned
      exact ⟨found, begins, .round member below⟩

theorem Argument.has_of_mentions : (argument : Argument) → argument.mentions names = true →
    ∃ inner : Ty, inner.Begins names ∧ Argument.Has inner argument
  | .lifetime _, mentioned => by cases mentioned
  | .type type, mentioned => by
      obtain ⟨found, begins, below⟩ := Ty.within_of_mentions type mentioned
      exact ⟨found, begins, .type below⟩
  | .const parts, mentioned => by
      obtain ⟨found, begins, node, member, below⟩ := Node.hasEach_of_mentions parts mentioned
      exact ⟨found, begins, .const member below⟩
  | .binding parts, mentioned => by
      obtain ⟨found, begins, node, member, below⟩ := Node.hasEach_of_mentions parts mentioned
      exact ⟨found, begins, .binding member below⟩

theorem Argument.hasEach_of_mentions : (arguments : List Argument) →
    Argument.anyMentions names arguments = true →
    ∃ inner : Ty, inner.Begins names ∧ ∃ argument ∈ arguments, Argument.Has inner argument
  | [], mentioned => by cases mentioned
  | first :: rest, mentioned => by
      rw [Argument.anyMentions, Bool.or_eq_true] at mentioned
      rcases mentioned with here | later
      · obtain ⟨found, begins, below⟩ := Argument.has_of_mentions first here
        exact ⟨found, begins, first, List.mem_cons_self, below⟩
      · obtain ⟨found, begins, argument, member, below⟩ := Argument.hasEach_of_mentions rest later
        exact ⟨found, begins, argument, List.mem_cons_of_mem _ member, below⟩

theorem Node.has_of_mentions : (node : Node) → node.mentions names = true →
    ∃ inner : Ty, inner.Begins names ∧ Node.Has inner node
  | .word _, mentioned => by cases mentioned
  | .raw _, mentioned => by cases mentioned
  | .group _ parts, mentioned => by
      obtain ⟨found, begins, node, member, below⟩ := Node.hasEach_of_mentions parts mentioned
      exact ⟨found, begins, .group member below⟩
  | .type type, mentioned => by
      obtain ⟨found, begins, below⟩ := Ty.within_of_mentions type mentioned
      exact ⟨found, begins, .type below⟩
  | .implied type, mentioned => by
      obtain ⟨found, begins, below⟩ := Ty.within_of_mentions type mentioned
      exact ⟨found, begins, .implied below⟩
  | .arguments arguments, mentioned => by
      obtain ⟨found, begins, below⟩ := Arguments.has_of_mentions arguments mentioned
      exact ⟨found, begins, .arguments below⟩
  | .literal attributes _ _, mentioned => by
      obtain ⟨found, begins, node, member, below⟩ := Node.hasEach_of_mentions attributes mentioned
      exact ⟨found, begins, .literal member below⟩
  | .attribute _ value, mentioned => by
      obtain ⟨found, begins, node, member, below⟩ := Node.hasEach_of_mentions value mentioned
      exact ⟨found, begins, .attribute member below⟩
  | .declared _ attributes parts, mentioned => by
      rw [Node.mentions, Bool.or_eq_true] at mentioned
      rcases mentioned with mentioned | mentioned
      · obtain ⟨found, begins, node, member, below⟩ := Node.hasEach_of_mentions attributes mentioned
        exact ⟨found, begins, .attributes member below⟩
      · obtain ⟨found, begins, node, member, below⟩ := Node.hasEach_of_mentions parts mentioned
        exact ⟨found, begins, .parts member below⟩

theorem Node.hasEach_of_mentions : (nodes : List Node) →
    Node.anyMentions names nodes = true →
    ∃ inner : Ty, inner.Begins names ∧ ∃ node ∈ nodes, Node.Has inner node
  | [], mentioned => by cases mentioned
  | first :: rest, mentioned => by
      rw [Node.anyMentions, Bool.or_eq_true] at mentioned
      rcases mentioned with here | later
      · obtain ⟨found, begins, below⟩ := Node.has_of_mentions first here
        exact ⟨found, begins, first, List.mem_cons_self, below⟩
      · obtain ⟨found, begins, node, member, below⟩ := Node.hasEach_of_mentions rest later
        exact ⟨found, begins, node, List.mem_cons_of_mem _ member, below⟩

end

end

/-- A type mentions a name just if a path type that begins with it stands within the type. -/
theorem Ty.mentions_iff {names : List String} {type : Ty} :
    type.mentions names = true ↔ ∃ inner : Ty, inner.Begins names ∧ inner.Within type := by
  constructor
  · exact Ty.within_of_mentions type
  · rintro ⟨inner, begins, below⟩
    exact Ty.mentions_of_within begins below

end SlotSum
