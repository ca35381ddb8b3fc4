import Mathlib.Logic.Relation
import SlotSum.Proofs.Payload.Tolerance
import SlotSum.Proofs.Source.Change
import SlotSum.Proofs.Source.Strip

/-!
Invisible groups around the types in a type. They may stand around any of them, at any depth, and
nothing that is asked of a payload depends on them: not its text, not what it mentions, and not what
it overlaps. What holds for one group that is put around one type holds for all of them.
-/

namespace SlotSum

variable {names params : List String}

/-- A type is put into an invisible group. -/
def Change.grouping : Change := ⟨fun type type' => type' = .group type, fun _ _ => False⟩

/-- The second type is the first one with invisible groups put around types in it. -/
def Ty.Groups : Ty → Ty → Prop := Relation.ReflTransGen (Ty.Changes .grouping)

/-! ### Prints -/

mutual

theorem Ty.trees_of_grouping {type type' : Ty} :
    Ty.Changes .grouping type type' → type'.trees = type.trees
  | .here made => by
      cases made
      rw [Ty.trees]
  | .group inside => by simp only [Ty.trees, Ty.trees_of_grouping inside]
  | .paren inside => by simp only [Ty.trees, Ty.trees_of_grouping inside]
  | .path inside => by simp only [Ty.trees, Segment.treesAll_of_grouping inside]
  | .subject inside => by simp only [Ty.trees, Ty.trees_of_grouping inside]
  | .owner inside => by simp only [Ty.trees, Segment.treesAll_of_grouping inside]
  | .rest inside => by simp only [Ty.trees, Segment.treesAll_of_grouping inside]
  | .reference inside => by simp only [Ty.trees, Ty.trees_of_grouping inside]
  | .slice inside => by simp only [Ty.trees, Ty.trees_of_grouping inside]
  | .element inside => by simp only [Ty.trees, Ty.trees_of_grouping inside]
  | .length inside => by simp only [Ty.trees, Node.treesAll_of_grouping inside]
  | .tuple inside => by simp only [Ty.trees, Ty.treesEach_of_grouping inside]
  | .composite inside => by simp only [Ty.trees, Node.treesAll_of_grouping inside]

theorem Ty.treesEach_of_grouping {elements elements' : List Ty} :
    Ty.ChangesIn .grouping elements elements' → Ty.treesEach elements' = Ty.treesEach elements
  | .first inside => by simp only [Ty.treesEach, Ty.trees_of_grouping inside]
  | .later inside => by simp only [Ty.treesEach, Ty.treesEach_of_grouping inside]

theorem Segment.trees_of_grouping {segment segment' : Segment} :
    Segment.Changes .grouping segment segment' → segment'.trees = segment.trees
  | .arguments inside => by simp only [Segment.trees, Arguments.trees_of_grouping inside]

theorem Segment.treesAll_of_grouping {segments segments' : List Segment} :
    Segment.ChangesIn .grouping segments segments' →
      Segment.treesAll segments' = Segment.treesAll segments
  | @Segment.ChangesIn.first _ _ _ [] inside
  | @Segment.ChangesIn.first _ _ _ (_ :: _) inside => by
      simp only [Segment.treesAll, Segment.trees_of_grouping inside]
  | .later inside => by
      have later := Segment.treesAll_of_grouping inside
      obtain ⟨⟨_, _, rfl⟩, _, _, rfl⟩ := inside.exists_cons
      simp only [Segment.treesAll, later]

theorem Arguments.trees_of_grouping {arguments arguments' : Arguments} :
    Arguments.Changes .grouping arguments arguments' → arguments'.trees = arguments.trees
  | .angle inside => by simp only [Arguments.trees, Argument.treesEach_of_grouping inside]
  | .round inside => by simp only [Arguments.trees, Node.treesAll_of_grouping inside]

theorem Argument.trees_of_grouping {argument argument' : Argument} :
    Argument.Changes .grouping argument argument' →
      argument'.isLifetime = argument.isLifetime ∧ argument'.trees = argument.trees
  | .type inside => by
      simp [Argument.isLifetime, Argument.trees, Argument.treesEach, Ty.trees_of_grouping inside]
  | .const inside | .binding inside => by
      simp [Argument.isLifetime, Argument.trees, Argument.treesEach,
        Node.treesAll_of_grouping inside]

theorem Argument.treesEach_of_grouping {arguments arguments' : List Argument} :
    Argument.ChangesIn .grouping arguments arguments' →
      Argument.treesEach arguments' = Argument.treesEach arguments
  | .first inside => by
      obtain ⟨lifetimes, prints⟩ := Argument.trees_of_grouping inside
      rw [Argument.treesEach_eq, Argument.treesEach_eq, List.map_cons, List.map_cons, lifetimes,
        prints]
  | .later inside => by
      have later := Argument.treesEach_of_grouping inside
      rw [Argument.treesEach_eq, Argument.treesEach_eq] at later ⊢
      rw [List.map_cons, List.map_cons, later]

theorem Node.trees_of_grouping {node node' : Node} :
    Node.Changes .grouping node node' → node'.trees = node.trees
  | .here made => made.elim
  | @Node.Changes.group _ _ _ delimiter inside => by
      cases delimiter <;> simp only [Node.trees, Node.treesAll_of_grouping inside]
  | .type inside => by simp only [Node.trees, Ty.trees_of_grouping inside]
  | .implied inside => by simp only [Node.trees]
  | .arguments inside => by simp only [Node.trees, Arguments.trees_of_grouping inside]
  | .literal inside => by simp only [Node.trees, Node.treesAll_of_grouping inside]
  | .attribute inside => by simp only [Node.trees, Node.treesAll_of_grouping inside]
  | .attributes inside => by simp only [Node.trees, Node.treesAll_of_grouping inside]
  | .parts inside => by simp only [Node.trees, Node.treesAll_of_grouping inside]

theorem Node.treesAll_of_grouping {nodes nodes' : List Node} :
    Node.ChangesIn .grouping nodes nodes' → Node.treesAll nodes' = Node.treesAll nodes
  | .first inside => by simp only [Node.treesAll, Node.trees_of_grouping inside]
  | .later inside => by simp only [Node.treesAll, Node.treesAll_of_grouping inside]

end

/-- Groups around a type are lost without groups and parentheses, and others are kept. -/
theorem Ty.bare_of_grouping {type type' : Ty} :
    Ty.Changes .grouping type type' →
      type'.bare = type.bare ∨ Ty.Changes .grouping type.bare type'.bare
  | .here made => by
      cases made
      exact .inl rfl
  | .group inside => by simpa using Ty.bare_of_grouping inside
  | .paren inside => by simpa using Ty.bare_of_grouping inside
  | .path inside => .inr (.path inside)
  | .subject inside => .inr (.subject inside)
  | .owner inside => .inr (.owner inside)
  | .rest inside => .inr (.rest inside)
  | .reference inside => .inr (.reference inside)
  | .slice inside => .inr (.slice inside)
  | .element inside => .inr (.element inside)
  | .length inside => .inr (.length inside)
  | .tuple inside => .inr (.tuple inside)
  | .composite inside => .inr (.composite inside)

theorem Ty.key_of_grouping {type type' : Ty} (changes : Ty.Changes .grouping type type') :
    type'.key = type.key := by
  unfold Ty.key Ty.text
  rcases Ty.bare_of_grouping changes with same | inside
  · rw [same]
  · rw [Ty.trees_of_grouping inside]

/-! ### Optional types -/

/-- The last segment of a path is changed, or one of those before it is. -/
theorem Segment.ChangesIn.at_end {segments segments' : List Segment}
    (changes : Segment.ChangesIn .grouping segments segments') :
    (∃ before last last', segments = before ++ [last] ∧ segments' = before ++ [last'] ∧
      Segment.Changes .grouping last last') ∨
    ∃ before before' last, segments = before ++ [last] ∧ segments' = before' ++ [last] ∧
      Segment.ChangesIn .grouping before before' := by
  induction segments generalizing segments' with
  | nil => cases changes
  | cons head rest ih =>
      cases changes with
      | @first _ head' _ inside =>
          rcases List.eq_nil_or_concat rest with rfl | ⟨more, last, rfl⟩
          · exact .inl ⟨[], head, head', rfl, rfl, inside⟩
          · exact .inr ⟨head :: more, head' :: more, last, by simp, by simp, .first inside⟩
      | later inside =>
          rcases ih inside with
            ⟨before, last, last', rfl, rfl, own⟩ | ⟨before, before', last, rfl, rfl, own⟩
          · exact .inl ⟨head :: before, last, last', rfl, rfl, own⟩
          · exact .inr ⟨head :: before, head :: before', last, rfl, rfl, .later own⟩

/-- A change among segments is one in the arguments of some of them. -/
theorem Segment.ChangesIn.has_arguments {segments segments' : List Segment}
    (changes : Segment.ChangesIn .grouping segments segments') :
    (segments.all fun segment => segment.arguments.isNone) = false ∧
      (segments'.all fun segment => segment.arguments.isNone) = false := by
  induction segments generalizing segments' with
  | nil => cases changes
  | cons head rest ih =>
      cases changes with
      | first inside =>
          cases inside with
          | arguments inside =>
              obtain ⟨some, some'⟩ := inside.isNone
              simp [Segment.arguments, some, some']
      | later inside =>
          obtain ⟨some, some'⟩ := ih inside
          simp only [List.all_cons, some, some', Bool.and_false, and_self]

theorem Ty.soleArgument?_of_grouping {arguments arguments' : Arguments}
    (changes : Arguments.Changes .grouping arguments arguments') :
    (Ty.soleArgument? arguments').map Ty.key = (Ty.soleArgument? arguments).map Ty.key := by
  cases changes with
  | round => rfl
  | angle inside =>
      cases inside with
      | @first _ _ rest inside =>
          cases rest with
          | cons => cases inside <;> rfl
          | nil =>
              cases inside with
              | type inside => exact congrArg some (Ty.key_of_grouping inside)
              | const => rfl
              | binding => rfl
      | later inside => cases inside <;> simp [Ty.soleArgument?]

theorem Ty.payload?_concat (rooted : Bool) (before : List Segment) (last : Segment) :
    (Ty.path rooted (before ++ [last])).payload? =
      if last.name == "Option" && Ty.isOptionalPath rooted before then
        Ty.soleArgument? last.arguments
      else none := by
  simp only [Ty.payload?, Ty.bare, List.getLast?_concat, List.dropLast_concat]

theorem Ty.payload?_of_path (rooted : Bool) {segments segments' : List Segment}
    (inside : Segment.ChangesIn .grouping segments segments') :
    (Ty.path rooted segments').payload?.map Ty.key =
      (Ty.path rooted segments).payload?.map Ty.key := by
  rcases inside.at_end with
    ⟨before, last, last', rfl, rfl, own⟩ | ⟨before, before', last, rfl, rfl, own⟩
  · rw [Ty.payload?_concat, Ty.payload?_concat, own.name]
    split
    · cases own with
      | arguments below => exact Ty.soleArgument?_of_grouping below
    · rfl
  · obtain ⟨some, some'⟩ := own.has_arguments
    simp only [Ty.payload?_concat, Ty.isOptionalPath, some, some', Bool.false_and,
      Bool.and_false, Bool.false_eq_true, if_false]

theorem Ty.payload?_of_grouping {type type' : Ty} (changes : Ty.Changes .grouping type type') :
    type'.payload?.map Ty.key = type.payload?.map Ty.key := by
  cases changes with
  | here made =>
      cases made
      rfl
  | group inside => simpa only [Ty.payload?, Ty.bare_group] using Ty.payload?_of_grouping inside
  | paren inside => simpa only [Ty.payload?, Ty.bare_paren] using Ty.payload?_of_grouping inside
  | path inside => exact Ty.payload?_of_path _ inside
  | subject | owner | rest | reference | slice | element | length | tuple | composite => rfl

/-! ### Mentions -/

theorem beginsWithAny_of_names {rooted : Bool} {segments segments' : List Segment}
    (same : segments'.map Segment.name = segments.map Segment.name) :
    beginsWithAny names rooted segments' = beginsWithAny names rooted segments := by
  have heads := congrArg List.head? same
  rw [List.head?_map, List.head?_map] at heads
  have known := congrArg (Option.any fun name => names.contains name) heads
  rw [Option.any_map, Option.any_map] at known
  exact congrArg (!rooted && ·) known

mutual

theorem Ty.mentions_of_grouping {type type' : Ty} :
    Ty.Changes .grouping type type' → type'.mentions names = type.mentions names
  | .here made => by
      cases made
      rw [Ty.mentions]
  | .group inside => by simp only [Ty.mentions, Ty.mentions_of_grouping inside]
  | .paren inside => by simp only [Ty.mentions, Ty.mentions_of_grouping inside]
  | .path inside => by
      simp only [Ty.mentions, beginsWithAny_of_names inside.names,
        Segment.anyMentions_of_grouping inside]
  | .subject inside => by simp only [Ty.mentions, Ty.mentions_of_grouping inside]
  | .owner inside => by simp only [Ty.mentions, Segment.anyMentions_of_grouping inside]
  | .rest inside => by simp only [Ty.mentions, Segment.anyMentions_of_grouping inside]
  | .reference inside => by simp only [Ty.mentions, Ty.mentions_of_grouping inside]
  | .slice inside => by simp only [Ty.mentions, Ty.mentions_of_grouping inside]
  | .element inside => by simp only [Ty.mentions, Ty.mentions_of_grouping inside]
  | .length inside => by simp only [Ty.mentions, Node.anyMentions_of_grouping inside]
  | .tuple inside => by simp only [Ty.mentions, Ty.anyMentions_of_grouping inside]
  | .composite inside => by simp only [Ty.mentions, Node.anyMentions_of_grouping inside]

theorem Ty.anyMentions_of_grouping {elements elements' : List Ty} :
    Ty.ChangesIn .grouping elements elements' →
      Ty.anyMentions names elements' = Ty.anyMentions names elements
  | .first inside => by simp only [Ty.anyMentions, Ty.mentions_of_grouping inside]
  | .later inside => by simp only [Ty.anyMentions, Ty.anyMentions_of_grouping inside]

theorem Segment.mentions_of_grouping {segment segment' : Segment} :
    Segment.Changes .grouping segment segment' → segment'.mentions names = segment.mentions names
  | .arguments inside => by simp only [Segment.mentions, Arguments.mentions_of_grouping inside]

theorem Segment.anyMentions_of_grouping {segments segments' : List Segment} :
    Segment.ChangesIn .grouping segments segments' →
      Segment.anyMentions names segments' = Segment.anyMentions names segments
  | .first inside => by simp only [Segment.anyMentions, Segment.mentions_of_grouping inside]
  | .later inside => by simp only [Segment.anyMentions, Segment.anyMentions_of_grouping inside]

theorem Arguments.mentions_of_grouping {arguments arguments' : Arguments} :
    Arguments.Changes .grouping arguments arguments' →
      arguments'.mentions names = arguments.mentions names
  | .angle inside => by simp only [Arguments.mentions, Argument.anyMentions_of_grouping inside]
  | .round inside => by simp only [Arguments.mentions, Node.anyMentions_of_grouping inside]

theorem Argument.mentions_of_grouping {argument argument' : Argument} :
    Argument.Changes .grouping argument argument' →
      argument'.mentions names = argument.mentions names
  | .type inside => by simp only [Argument.mentions, Ty.mentions_of_grouping inside]
  | .const inside => by simp only [Argument.mentions, Node.anyMentions_of_grouping inside]
  | .binding inside => by simp only [Argument.mentions, Node.anyMentions_of_grouping inside]

theorem Argument.anyMentions_of_grouping {arguments arguments' : List Argument} :
    Argument.ChangesIn .grouping arguments arguments' →
      Argument.anyMentions names arguments' = Argument.anyMentions names arguments
  | .first inside => by simp only [Argument.anyMentions, Argument.mentions_of_grouping inside]
  | .later inside => by simp only [Argument.anyMentions, Argument.anyMentions_of_grouping inside]

theorem Node.mentions_of_grouping {node node' : Node} :
    Node.Changes .grouping node node' → node'.mentions names = node.mentions names
  | .here made => made.elim
  | .group inside => by simp only [Node.mentions, Node.anyMentions_of_grouping inside]
  | .type inside => by simp only [Node.mentions, Ty.mentions_of_grouping inside]
  | .implied inside => by simp only [Node.mentions, Ty.mentions_of_grouping inside]
  | .arguments inside => by simp only [Node.mentions, Arguments.mentions_of_grouping inside]
  | .literal inside => by simp only [Node.mentions, Node.anyMentions_of_grouping inside]
  | .attribute inside => by simp only [Node.mentions, Node.anyMentions_of_grouping inside]
  | .attributes inside => by simp only [Node.mentions, Node.anyMentions_of_grouping inside]
  | .parts inside => by simp only [Node.mentions, Node.anyMentions_of_grouping inside]

theorem Node.anyMentions_of_grouping {nodes nodes' : List Node} :
    Node.ChangesIn .grouping nodes nodes' →
      Node.anyMentions names nodes' = Node.anyMentions names nodes
  | .first inside => by simp only [Node.anyMentions, Node.mentions_of_grouping inside]
  | .later inside => by simp only [Node.anyMentions, Node.anyMentions_of_grouping inside]

end

/-! ### Uncovered parameters -/

mutual

theorem Ty.isUncovered_of_grouping {type type' : Ty} :
    Ty.Changes .grouping type type' → type'.isUncovered params = type.isUncovered params
  | .here made => by
      cases made
      rw [Ty.isUncovered]
  | .group inside => by simp only [Ty.isUncovered, Ty.isUncovered_of_grouping inside]
  | .paren inside => by simp only [Ty.isUncovered, Ty.isUncovered_of_grouping inside]
  | .reference inside => by simp only [Ty.isUncovered, Ty.isUncovered_of_grouping inside]
  | .path inside => by simp only [Ty.isUncovered, Ty.uncoveredPath_of_grouping true inside]
  | .subject _ | .owner _ | .rest _ | .slice _ | .element _ | .length _ | .tuple _
  | .composite _ => by simp only [Ty.isUncovered]

theorem Ty.uncoveredPath_of_grouping {segments segments' : List Segment} (sole : Bool) :
    Segment.ChangesIn .grouping segments segments' →
      Ty.uncoveredPath params sole segments' = Ty.uncoveredPath params sole segments
  | @Segment.ChangesIn.first _ _ _ [] (.arguments inside) => by
      obtain ⟨some, some'⟩ := inside.isNone
      simp only [Ty.uncoveredPath, some, some', Ty.uncoveredArguments_of_grouping inside]
  | @Segment.ChangesIn.first _ _ _ (_ :: _) _ => by simp only [Ty.uncoveredPath]
  | .later inside => by
      have later := Ty.uncoveredPath_of_grouping false inside
      obtain ⟨⟨_, _, rfl⟩, _, _, rfl⟩ := inside.exists_cons
      simp only [Ty.uncoveredPath, later]

theorem Ty.uncoveredArguments_of_grouping {arguments arguments' : Arguments} :
    Arguments.Changes .grouping arguments arguments' →
      Ty.uncoveredArguments params arguments' = Ty.uncoveredArguments params arguments
  | .angle (.first inside) => by
      simp only [Ty.uncoveredArguments, Ty.uncoveredArgument_of_grouping inside]
  | .angle (.later _) => by simp only [Ty.uncoveredArguments]
  | .round _ => by simp only [Ty.uncoveredArguments]

theorem Ty.uncoveredArgument_of_grouping {argument argument' : Argument} :
    Argument.Changes .grouping argument argument' →
      Ty.uncoveredArgument params argument' = Ty.uncoveredArgument params argument
  | .type inside => by simp only [Ty.uncoveredArgument, Ty.isUncovered_of_grouping inside]
  | .const _ => by simp only [Ty.uncoveredArgument]
  | .binding _ => by simp only [Ty.uncoveredArgument]

end

/-! ### Overlaps -/

/-- A path with a change in it is neither a parameter nor the owner's own name. -/
theorem Segment.ChangesIn.isName (params : List String) (rooted : Bool)
    {segments segments' : List Segment}
    (changes : Segment.ChangesIn .grouping segments segments') :
    ((Ty.path rooted segments).isParam params = false ∧ Ty.isOwnName rooted segments = false) ∧
      (Ty.path rooted segments').isParam params = false ∧
        Ty.isOwnName rooted segments' = false := by
  have named {segments : List Segment} (noName : ∀ name, segments ≠ [.mk name .none]) :
      (Ty.path rooted segments).isParam params = false ∧ Ty.isOwnName rooted segments = false := by
    constructor
    · refine Bool.eq_false_iff.mpr fun param => ?_
      obtain ⟨name, same⟩ := Ty.eq_of_isParam param
      exact noName name (Ty.path.inj same).2
    · unfold Ty.isOwnName
      split
      · exact absurd rfl (noName _)
      · rfl
  exact ⟨named fun name => (changes.ne_name name).1, named fun name => (changes.ne_name name).2⟩

theorem Ty.isProjection_of_names {segments segments' : List Segment}
    (same : segments'.map Segment.name = segments.map Segment.name) :
    Ty.isProjection params segments' = Ty.isProjection params segments := by
  have lengths : segments'.length = segments.length := by simpa using congrArg List.length same
  have begins := @beginsWithAny_of_names params false _ _ same
  simp only [beginsWithAny, Bool.not_false, Bool.true_and] at begins
  rw [Ty.isProjection, Ty.isProjection, lengths, begins]

theorem Ty.isLeading_of_name {segment segment' : Segment} (same : segment'.name = segment.name) :
    Ty.isLeading segment' = Ty.isLeading segment := by
  rw [Ty.isLeading, Ty.isLeading, same]

theorem Node.ChangesIn.literal_iff {nodes nodes' : List Node} {text : String}
    (changes : Node.ChangesIn .grouping nodes nodes') :
    (∃ attributes, nodes' = [.literal attributes false text]) ↔
      ∃ attributes, nodes = [.literal attributes false text] := by
  cases changes with
  | first inside =>
      cases inside with
      | here made => exact made.elim
      | literal => simp
      | _ => simp
  | later inside => cases inside <;> simp

theorem Ty.lengthsOverlap_of_grouping {length length' : List Node}
    (changes : Node.ChangesIn .grouping length length') (other : List Node) :
    Ty.lengthsOverlap length' other = Ty.lengthsOverlap length other := by
  rw [Bool.eq_iff_iff, @Ty.lengthsOverlap_iff [], @Ty.lengthsOverlap_iff []]
  constructor
  · intro agree attributes attributes' text text' here there
    obtain ⟨attributes, here⟩ := changes.literal_iff.mpr ⟨attributes, here⟩
    exact agree attributes attributes' text text' here there
  · intro agree attributes attributes' text text' here there
    obtain ⟨attributes, here⟩ := changes.literal_iff.mp ⟨attributes, here⟩
    exact agree attributes attributes' text text' here there

/-- Types with changes in them have the same constructor. -/
theorem Ty.looselyOverlap_of_grouping {type type' : Ty}
    (changes : Ty.Changes .grouping type type') (kinds : type'.kind = type.kind)
    (structural : type'.isStructural params = type.isStructural params) (other : Ty) :
    Ty.looselyOverlap params type' other = Ty.looselyOverlap params type other := by
  have textual := Ty.isTextual_of_kind kinds
  simp only [Ty.looselyOverlap, kinds, structural, textual, Ty.key_of_grouping changes,
    Ty.mentions_of_grouping changes]

mutual

theorem Ty.overlaps_of_grouping {type type' : Ty} :
    Ty.Changes .grouping type type' → ∀ other : Ty,
      type'.overlaps params other = type.overlaps params other
  | .here made, other => by
      cases made
      rw [Ty.overlaps]
  | .group inside, other => by simp only [Ty.overlaps, Ty.overlaps_of_grouping inside]
  | .paren inside, other => by simp only [Ty.overlaps, Ty.overlaps_of_grouping inside]
  | @Ty.Changes.path _ segments segments' rooted inside, other => by
      have structural : (Ty.path rooted segments').isStructural params =
          (Ty.path rooted segments).isStructural params := by
        simp only [Ty.isStructural, Ty.isProjection_of_names inside.names]
      have loosely := Ty.looselyOverlap_of_grouping (.path inside) rfl structural
      obtain ⟨⟨noParam, notOwn⟩, noParam', notOwn'⟩ := inside.isName params rooted
      simp only [Ty.overlaps, noParam, noParam', notOwn, notOwn', loosely,
        Ty.isProjection_of_names inside.names, Ty.segmentsOverlap_of_grouping true inside]
  | .subject inside, other => by
      rw [Ty.overlaps, Ty.overlaps, Ty.looselyOverlap_of_grouping (.subject inside) rfl rfl]
  | .owner inside, other => by
      rw [Ty.overlaps, Ty.overlaps, Ty.looselyOverlap_of_grouping (.owner inside) rfl rfl]
  | .rest inside, other => by
      rw [Ty.overlaps, Ty.overlaps, Ty.looselyOverlap_of_grouping (.rest inside) rfl rfl]
  | .reference inside, other => by
      simp only [Ty.overlaps, Ty.overlaps_of_grouping inside,
        Ty.looselyOverlap_of_grouping (.reference inside) rfl rfl]
  | .slice inside, other => by
      simp only [Ty.overlaps, Ty.overlaps_of_grouping inside,
        Ty.looselyOverlap_of_grouping (.slice inside) rfl rfl]
  | .element inside, other => by
      simp only [Ty.overlaps, Ty.overlaps_of_grouping inside,
        Ty.looselyOverlap_of_grouping (.element inside) rfl rfl]
  | .length inside, other => by
      simp only [Ty.overlaps, Ty.lengthsOverlap_of_grouping inside,
        Ty.looselyOverlap_of_grouping (.length inside) rfl rfl]
  | .tuple inside, other => by
      simp only [Ty.overlaps, Ty.allOverlap_of_grouping inside, inside.length,
        Ty.looselyOverlap_of_grouping (.tuple inside) rfl rfl]
  | .composite inside, other => by
      rw [Ty.overlaps, Ty.overlaps, Ty.looselyOverlap_of_grouping (.composite inside) rfl rfl]

theorem Ty.allOverlap_of_grouping {elements elements' : List Ty} :
    Ty.ChangesIn .grouping elements elements' → ∀ others : List Ty,
      Ty.allOverlap params elements' others = Ty.allOverlap params elements others
  | .first inside, others => by
      cases others <;> simp only [Ty.allOverlap, Ty.overlaps_of_grouping inside]
  | .later inside, others => by
      cases others <;> simp only [Ty.allOverlap, Ty.allOverlap_of_grouping inside]

theorem Ty.segmentsOverlap_of_grouping {segments segments' : List Segment} (leading : Bool) :
    Segment.ChangesIn .grouping segments segments' → ∀ others : List Segment,
      Ty.segmentsOverlap params leading segments' others =
        Ty.segmentsOverlap params leading segments others
  | .first inside, others => by
      have words := Ty.isLeading_of_name inside.name
      rw [Ty.segmentsOverlap, Ty.segmentsOverlap, words]
      simp only [Ty.segmentOverlaps_of_grouping inside]
  | .later inside, others => by
      simp only [Ty.segmentsOverlap, Ty.segmentsOverlap_of_grouping _ inside, inside.length]

theorem Ty.segmentOverlaps_of_grouping {segment segment' : Segment} :
    Segment.Changes .grouping segment segment' → ∀ other : Segment,
      Ty.segmentOverlaps params segment' other = Ty.segmentOverlaps params segment other
  | .arguments inside, other => by
      simp only [Ty.segmentOverlaps, Ty.argumentsOverlap_of_grouping inside]

theorem Ty.argumentsOverlap_of_grouping {arguments arguments' : Arguments} :
    Arguments.Changes .grouping arguments arguments' → ∀ other : Arguments,
      Ty.argumentsOverlap params arguments' other = Ty.argumentsOverlap params arguments other
  | .angle inside, other => by
      cases other <;>
        simp only [Ty.argumentsOverlap, inside.length, Ty.allArgumentsOverlap_of_grouping inside]
  | .round inside, other => by
      cases other <;> simp only [Ty.argumentsOverlap, Node.treesAll_of_grouping inside]

theorem Ty.allArgumentsOverlap_of_grouping {arguments arguments' : List Argument} :
    Argument.ChangesIn .grouping arguments arguments' → ∀ others : List Argument,
      Ty.allArgumentsOverlap params arguments' others =
        Ty.allArgumentsOverlap params arguments others
  | .first inside, others => by
      cases others <;> simp only [Ty.allArgumentsOverlap, Ty.argumentOverlaps_of_grouping inside]
  | .later inside, others => by
      cases others <;> simp only [Ty.allArgumentsOverlap, Ty.allArgumentsOverlap_of_grouping inside]

theorem Ty.argumentOverlaps_of_grouping {argument argument' : Argument} :
    Argument.Changes .grouping argument argument' → ∀ other : Argument,
      Ty.argumentOverlaps params argument' other = Ty.argumentOverlaps params argument other
  | .type inside, other => by
      have prints := (Argument.trees_of_grouping (.type inside)).2
      cases other <;> simp only [Ty.argumentOverlaps, Ty.overlaps_of_grouping inside, prints]
  | .const inside, other => by
      have prints := (Argument.trees_of_grouping (.const inside)).2
      cases other <;> simp only [Ty.argumentOverlaps, prints]
  | .binding inside, other => by
      have prints := (Argument.trees_of_grouping (.binding inside)).2
      cases other <;> simp only [Ty.argumentOverlaps, prints]

end

/-! ### Any number of groups -/

/-- What one group leaves as it is, any number of groups do. -/
theorem Ty.Groups.invariant (question : Ty → α)
    (each : ∀ type type' : Ty, Ty.Changes .grouping type type' → question type' = question type)
    {type type' : Ty} (groups : type.Groups type') : question type' = question type := by
  induction groups with
  | refl => rfl
  | tail _ changes ih => exact (each _ _ changes).trans ih

namespace Ty.Groups

variable {type type' : Ty}

theorem key (groups : type.Groups type') : type'.key = type.key :=
  groups.invariant Ty.key fun _ _ => Ty.key_of_grouping

theorem payload? (groups : type.Groups type') :
    type'.payload?.map Ty.key = type.payload?.map Ty.key :=
  groups.invariant (fun type => type.payload?.map Ty.key) fun _ _ => Ty.payload?_of_grouping

theorem mentions (groups : type.Groups type') (names : List String) :
    type'.mentions names = type.mentions names :=
  groups.invariant (fun type => type.mentions names) fun _ _ => Ty.mentions_of_grouping

theorem isUncovered (groups : type.Groups type') (params : List String) :
    type'.isUncovered params = type.isUncovered params :=
  groups.invariant (fun type => type.isUncovered params) fun _ _ => Ty.isUncovered_of_grouping

theorem overlaps (groups : type.Groups type') (params : List String) (other : Ty) :
    type'.overlaps params other = type.overlaps params other :=
  groups.invariant (fun type => type.overlaps params other)
    fun _ _ changes => Ty.overlaps_of_grouping changes other

theorem display (groups : type.Groups type') : type'.display = type.display := by
  rw [Ty.display, Ty.display, groups.key]

end Ty.Groups

end SlotSum
