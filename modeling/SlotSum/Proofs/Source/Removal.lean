import Mathlib.Logic.Relation
import SlotSum.Expand
import SlotSum.Proofs.Source.Change

/-!
Stripping as a removal of attributes. One option attribute after the other is taken off the
structures and fields of a term, wherever they stand in it. In whatever order this is done, it ends
with the stripped term, so stripping removes all of these attributes and changes nothing else.
-/

namespace SlotSum

open Relation (ReflTransGen)

/-- An attribute whose path is `one_of` and nothing else. -/
def Node.IsOption (node : Node) : Prop :=
  ∃ head value span, node = .attribute head value ∧ head.rooted = false ∧
    head.path = [⟨"one_of", span⟩]

/-- A structure or field loses one of its option attributes. -/
inductive Node.Loses : Node → Node → Prop
  | option (isOption : Node.IsOption option) :
      Node.Loses (.declared kind (before ++ option :: after) parts)
        (.declared kind (before ++ after) parts)

/-- One option attribute is taken off one structure or field. -/
def Change.removal : Change := ⟨fun _ _ => False, Node.Loses⟩

/-- The second list comes of the first one by any number of removals. -/
def Node.Sheds : List Node → List Node → Prop := ReflTransGen (Node.ChangesIn .removal)

/-- No structure or field within the terms has an attribute that can be removed. -/
def Node.AreBare (nodes : List Node) : Prop := ∀ next, ¬ Node.ChangesIn .removal nodes next

theorem Node.carriesOptions_iff {node : Node} : node.carriesOptions = true ↔ node.IsOption := by
  constructor
  · intro carries
    cases node with
    | «attribute» head value =>
        have named : head.isNamed optionName = true := carries
        simp only [AttributeHead.isNamed, Bool.and_eq_true, Bool.not_eq_true'] at named
        obtain ⟨unrooted, only⟩ := named
        split at only
        · rename_i name path
          obtain ⟨text, span⟩ := name
          obtain rfl : text = "one_of" := beq_iff_eq.mp only
          exact ⟨head, value, span, rfl, unrooted, path⟩
        · cases only
    | _ => cases carries
  · rintro ⟨head, value, span, rfl, unrooted, path⟩
    simp [Node.carriesOptions, Node.head?, AttributeHead.isNamed, unrooted, path, optionName]

theorem Node.stripOptions_eq (attributes : List Node) :
    Node.stripOptions attributes =
      (attributes.filter fun node => !node.carriesOptions).map Node.strip := by
  induction attributes with
  | nil => rfl
  | cons first rest ih =>
      cases carries : first.carriesOptions <;> simp [Node.stripOptions, carries, ih]

/-! ### A removal does not change what is left in the end -/

theorem Node.Changes.carriesOptions {node node' : Node}
    (changes : Node.Changes .removal node node') :
    node'.carriesOptions = node.carriesOptions := by
  cases changes with
  | here made => cases made; rfl
  | _ => rfl

mutual

theorem Ty.strip_of_removal {type type' : Ty} :
    Ty.Changes .removal type type' → type'.strip = type.strip
  | .here made => made.elim
  | .group inside => by simp only [Ty.strip, Ty.strip_of_removal inside]
  | .paren inside => by simp only [Ty.strip, Ty.strip_of_removal inside]
  | .path inside => by simp only [Ty.strip, Segment.stripAll_of_removal inside]
  | .subject inside => by simp only [Ty.strip, Ty.strip_of_removal inside]
  | .owner inside => by simp only [Ty.strip, Segment.stripAll_of_removal inside]
  | .rest inside => by simp only [Ty.strip, Segment.stripAll_of_removal inside]
  | .reference inside => by simp only [Ty.strip, Ty.strip_of_removal inside]
  | .slice inside => by simp only [Ty.strip, Ty.strip_of_removal inside]
  | .element inside => by simp only [Ty.strip, Ty.strip_of_removal inside]
  | .length inside => by simp only [Ty.strip, Node.stripAll_of_removal inside]
  | .tuple inside => by simp only [Ty.strip, Ty.stripAll_of_removal inside]
  | .composite inside => by simp only [Ty.strip, Node.stripAll_of_removal inside]

theorem Ty.stripAll_of_removal {elements elements' : List Ty} :
    Ty.ChangesIn .removal elements elements' → Ty.stripAll elements' = Ty.stripAll elements
  | .first inside => by simp only [Ty.stripAll, Ty.strip_of_removal inside]
  | .later inside => by simp only [Ty.stripAll, Ty.stripAll_of_removal inside]

theorem Segment.strip_of_removal {segment segment' : Segment} :
    Segment.Changes .removal segment segment' → segment'.strip = segment.strip
  | .arguments inside => by simp only [Segment.strip, Arguments.strip_of_removal inside]

theorem Segment.stripAll_of_removal {segments segments' : List Segment} :
    Segment.ChangesIn .removal segments segments' →
      Segment.stripAll segments' = Segment.stripAll segments
  | .first inside => by simp only [Segment.stripAll, Segment.strip_of_removal inside]
  | .later inside => by simp only [Segment.stripAll, Segment.stripAll_of_removal inside]

theorem Arguments.strip_of_removal {arguments arguments' : Arguments} :
    Arguments.Changes .removal arguments arguments' → arguments'.strip = arguments.strip
  | .angle inside => by simp only [Arguments.strip, Argument.stripAll_of_removal inside]
  | .round inside => by simp only [Arguments.strip, Node.stripAll_of_removal inside]

theorem Argument.strip_of_removal {argument argument' : Argument} :
    Argument.Changes .removal argument argument' → argument'.strip = argument.strip
  | .type inside => by simp only [Argument.strip, Ty.strip_of_removal inside]
  | .const inside => by simp only [Argument.strip, Node.stripAll_of_removal inside]
  | .binding inside => by simp only [Argument.strip, Node.stripAll_of_removal inside]

theorem Argument.stripAll_of_removal {arguments arguments' : List Argument} :
    Argument.ChangesIn .removal arguments arguments' →
      Argument.stripAll arguments' = Argument.stripAll arguments
  | .first inside => by simp only [Argument.stripAll, Argument.strip_of_removal inside]
  | .later inside => by simp only [Argument.stripAll, Argument.stripAll_of_removal inside]

theorem Node.strip_of_removal {node node' : Node} :
    Node.Changes .removal node node' → node'.strip = node.strip
  | .here (.option isOption) => by
      have carries := Node.carriesOptions_iff.mpr isOption
      simp [Node.strip, Node.stripOptions_eq, carries]
  | .group inside => by simp only [Node.strip, Node.stripAll_of_removal inside]
  | .type inside => by simp only [Node.strip, Ty.strip_of_removal inside]
  | .implied inside => by simp only [Node.strip, Ty.strip_of_removal inside]
  | .arguments inside => by simp only [Node.strip, Arguments.strip_of_removal inside]
  | .literal inside => by simp only [Node.strip, Node.stripAll_of_removal inside]
  | .attribute inside => by simp only [Node.strip, Node.stripAll_of_removal inside]
  | .attributes inside => by simp only [Node.strip, Node.stripOptions_of_removal inside]
  | .parts inside => by simp only [Node.strip, Node.stripAll_of_removal inside]

theorem Node.stripAll_of_removal {nodes nodes' : List Node} :
    Node.ChangesIn .removal nodes nodes' → Node.stripAll nodes' = Node.stripAll nodes
  | .first inside => by simp only [Node.stripAll, Node.strip_of_removal inside]
  | .later inside => by simp only [Node.stripAll, Node.stripAll_of_removal inside]

theorem Node.stripOptions_of_removal {nodes nodes' : List Node} :
    Node.ChangesIn .removal nodes nodes' → Node.stripOptions nodes' = Node.stripOptions nodes
  | .first inside => by
      simp only [Node.stripOptions, inside.carriesOptions, Node.strip_of_removal inside]
  | .later inside => by simp only [Node.stripOptions, Node.stripOptions_of_removal inside]

end

/-! ### Stripping is reached by removals -/

theorem Node.ChangesIn.append (before : List Node) {nodes nodes' : List Node}
    (changes : Node.ChangesIn .removal nodes nodes') :
    Node.ChangesIn .removal (before ++ nodes) (before ++ nodes') := by
  induction before with
  | nil => exact changes
  | cons first rest ih => exact .later ih

/-- Elements of a list are reached one after the other, each by steps of its own. -/
theorem reaches_cons {step : α → α → Prop} {stepIn : List α → List α → Prop}
    (atFirst : ∀ first first' rest, step first first' → stepIn (first :: rest) (first' :: rest))
    (atLater : ∀ first rest rest', stepIn rest rest' → stepIn (first :: rest) (first :: rest'))
    {first first' : α} {rest rest' : List α} (here : ReflTransGen step first first')
    (there : ReflTransGen stepIn rest rest') :
    ReflTransGen stepIn (first :: rest) (first' :: rest') := by
  have firsts : ReflTransGen stepIn (first :: rest) (first' :: rest) :=
    here.lift (· :: rest) fun _ _ => atFirst _ _ rest
  have rests : ReflTransGen stepIn (first' :: rest) (first' :: rest') :=
    there.lift (first' :: ·) fun _ _ => atLater first' _ _
  exact firsts.trans rests

-- by recursion on the term: its parts are stripped one after the other
mutual

theorem Ty.reaches_strip : (type : Ty) → ReflTransGen (Ty.Changes .removal) type type.strip
  | .group inner => inner.reaches_strip.lift Ty.group fun _ _ => .group
  | .paren inner => inner.reaches_strip.lift Ty.paren fun _ _ => .paren
  | .path rooted segments =>
    (Segment.reaches_stripAll segments).lift (Ty.path rooted) fun _ _ => .path
  | .projection subject qualified rooted owner rest => by
      calc
        ReflTransGen (Ty.Changes .removal) (.projection subject qualified rooted owner rest)
            (.projection subject.strip qualified rooted owner rest) :=
          subject.reaches_strip.lift (Ty.projection · qualified rooted owner rest)
            fun _ _ => .subject
        ReflTransGen (Ty.Changes .removal) _
            (.projection subject.strip qualified rooted (Segment.stripAll owner) rest) :=
          (Segment.reaches_stripAll owner).lift
            (Ty.projection subject.strip qualified rooted · rest) fun _ _ => .owner
        ReflTransGen (Ty.Changes .removal) _
            (.projection subject.strip qualified rooted (Segment.stripAll owner)
              (Segment.stripAll rest)) :=
          (Segment.reaches_stripAll rest).lift
            (Ty.projection subject.strip qualified rooted (Segment.stripAll owner) ·)
            fun _ _ => .rest
  | .reference lifetime mutable inner =>
    inner.reaches_strip.lift (Ty.reference lifetime mutable) fun _ _ => .reference
  | .slice inner => inner.reaches_strip.lift Ty.slice fun _ _ => .slice
  | .array inner length => by
      calc
        ReflTransGen (Ty.Changes .removal) (.array inner length)
            (.array inner.strip length) :=
          inner.reaches_strip.lift (Ty.array · length) fun _ _ => .element
        ReflTransGen (Ty.Changes .removal) _ (.array inner.strip (Node.stripAll length)) :=
          (Node.reaches_stripAll length).lift (Ty.array inner.strip) fun _ _ => .length
  | .tuple elements trailing =>
    (Ty.reaches_stripAll elements).lift (Ty.tuple · trailing) fun _ _ => .tuple
  | .never => .refl
  | .composite form parts =>
    (Node.reaches_stripAll parts).lift (Ty.composite form) fun _ _ => .composite

theorem Ty.reaches_stripAll : (elements : List Ty) →
    ReflTransGen (Ty.ChangesIn .removal) elements (Ty.stripAll elements)
  | [] => .refl
  | first :: rest =>
    reaches_cons (fun _ _ _ => .first) (fun _ _ _ => .later) first.reaches_strip
      (Ty.reaches_stripAll rest)

theorem Segment.reaches_strip : (segment : Segment) →
    ReflTransGen (Segment.Changes .removal) segment segment.strip
  | .mk name arguments => arguments.reaches_strip.lift (Segment.mk name) fun _ _ => .arguments

theorem Segment.reaches_stripAll : (segments : List Segment) →
    ReflTransGen (Segment.ChangesIn .removal) segments (Segment.stripAll segments)
  | [] => .refl
  | first :: rest =>
    reaches_cons (fun _ _ _ => .first) (fun _ _ _ => .later) first.reaches_strip
      (Segment.reaches_stripAll rest)

theorem Arguments.reaches_strip : (arguments : Arguments) →
    ReflTransGen (Arguments.Changes .removal) arguments arguments.strip
  | .none => .refl
  | .angle turbofish arguments trailing =>
    (Argument.reaches_stripAll arguments).lift (Arguments.angle turbofish · trailing)
      fun _ _ => .angle
  | .round parts => (Node.reaches_stripAll parts).lift Arguments.round fun _ _ => .round

theorem Argument.reaches_strip : (argument : Argument) →
    ReflTransGen (Argument.Changes .removal) argument argument.strip
  | .lifetime _ => .refl
  | .type type => type.reaches_strip.lift Argument.type fun _ _ => .type
  | .const parts => (Node.reaches_stripAll parts).lift Argument.const fun _ _ => .const
  | .binding parts => (Node.reaches_stripAll parts).lift Argument.binding fun _ _ => .binding

theorem Argument.reaches_stripAll : (arguments : List Argument) →
    ReflTransGen (Argument.ChangesIn .removal) arguments (Argument.stripAll arguments)
  | [] => .refl
  | first :: rest =>
    reaches_cons (fun _ _ _ => .first) (fun _ _ _ => .later) first.reaches_strip
      (Argument.reaches_stripAll rest)

theorem Node.reaches_strip : (node : Node) →
    ReflTransGen (Node.Changes .removal) node node.strip
  | .word _ => .refl
  | .raw _ => .refl
  | .group delimiter parts =>
    (Node.reaches_stripAll parts).lift (Node.group delimiter) fun _ _ => .group
  | .type type => type.reaches_strip.lift Node.type fun _ _ => .type
  | .implied type => type.reaches_strip.lift Node.implied fun _ _ => .implied
  | .arguments arguments => arguments.reaches_strip.lift Node.arguments fun _ _ => .arguments
  | .literal attributes negative text =>
    (Node.reaches_stripAll attributes).lift (Node.literal · negative text) fun _ _ => .literal
  | .attribute head value =>
    (Node.reaches_stripAll value).lift (Node.attribute head) fun _ _ => .attribute
  | .declared kind attributes parts => by
      calc
        ReflTransGen (Node.Changes .removal) (.declared kind attributes parts)
            (.declared kind (Node.stripOptions attributes) parts) :=
          Node.reaches_stripOptions attributes kind [] parts
        ReflTransGen (Node.Changes .removal) _
            (.declared kind (Node.stripOptions attributes) (Node.stripAll parts)) :=
          (Node.reaches_stripAll parts).lift (Node.declared kind (Node.stripOptions attributes))
            fun _ _ => .parts

theorem Node.reaches_stripAll : (nodes : List Node) →
    ReflTransGen (Node.ChangesIn .removal) nodes (Node.stripAll nodes)
  | [] => .refl
  | first :: rest =>
    reaches_cons (fun _ _ _ => .first) (fun _ _ _ => .later) first.reaches_strip
      (Node.reaches_stripAll rest)

/-- The attributes of a declaration, of which those in front have been stripped. -/
theorem Node.reaches_stripOptions : (attributes : List Node) → ∀ kind before parts,
    ReflTransGen (Node.Changes .removal) (.declared kind (before ++ attributes) parts)
      (.declared kind (before ++ Node.stripOptions attributes) parts)
  | [], _, _, _ => .refl
  | first :: rest, kind, before, parts => by
      cases carries : first.carriesOptions with
      | true =>
          have lost : Node.Loses (.declared kind (before ++ first :: rest) parts)
              (.declared kind (before ++ rest) parts) :=
            .option (Node.carriesOptions_iff.mp carries)
          have rests := Node.reaches_stripOptions rest kind before parts
          simpa only [Node.stripOptions, carries, if_true] using rests.head (.here lost)
      | false =>
          have firsts : ReflTransGen (Node.Changes .removal)
              (.declared kind (before ++ first :: rest) parts)
              (.declared kind (before ++ first.strip :: rest) parts) :=
            first.reaches_strip.lift (fun node => Node.declared kind (before ++ node :: rest) parts)
              fun _ _ changes => .attributes (.append before (.first changes))
          have rests := Node.reaches_stripOptions rest kind (before ++ [first.strip]) parts
          simp only [List.append_assoc, List.singleton_append] at rests
          simpa only [Node.stripOptions, carries, Bool.false_eq_true, if_false]
            using firsts.trans rests

end

/-! ### Nothing is left to remove -/

theorem sizeOf_erase_lt [SizeOf α] (before : List α) (erased : α) (after : List α) :
    sizeOf (before ++ after) < sizeOf (before ++ erased :: after) := by
  induction before with
  | nil =>
      simp only [List.nil_append, List.cons.sizeOf_spec]
      omega
  | cons first rest ih => simpa using ih

-- a removal makes every term around it smaller
mutual

theorem Ty.sizeOf_of_removal {type type' : Ty} :
    Ty.Changes .removal type type' → sizeOf type' < sizeOf type
  | .here made => made.elim
  | .group inside => by simpa using Ty.sizeOf_of_removal inside
  | .paren inside => by simpa using Ty.sizeOf_of_removal inside
  | .path inside => by simpa using Segment.sizeOf_all_of_removal inside
  | .subject inside => by simpa using Ty.sizeOf_of_removal inside
  | .owner inside => by simpa using Segment.sizeOf_all_of_removal inside
  | .rest inside => by simpa using Segment.sizeOf_all_of_removal inside
  | .reference inside => by simpa using Ty.sizeOf_of_removal inside
  | .slice inside => by simpa using Ty.sizeOf_of_removal inside
  | .element inside => by simpa using Ty.sizeOf_of_removal inside
  | .length inside => by simpa using Node.sizeOf_all_of_removal inside
  | .tuple inside => by simpa using Ty.sizeOf_all_of_removal inside
  | .composite inside => by simpa using Node.sizeOf_all_of_removal inside

theorem Ty.sizeOf_all_of_removal {elements elements' : List Ty} :
    Ty.ChangesIn .removal elements elements' → sizeOf elements' < sizeOf elements
  | .first inside => by simpa using Ty.sizeOf_of_removal inside
  | .later inside => by simpa using Ty.sizeOf_all_of_removal inside

theorem Segment.sizeOf_of_removal {segment segment' : Segment} :
    Segment.Changes .removal segment segment' → sizeOf segment' < sizeOf segment
  | .arguments inside => by simpa using Arguments.sizeOf_of_removal inside

theorem Segment.sizeOf_all_of_removal {segments segments' : List Segment} :
    Segment.ChangesIn .removal segments segments' → sizeOf segments' < sizeOf segments
  | .first inside => by simpa using Segment.sizeOf_of_removal inside
  | .later inside => by simpa using Segment.sizeOf_all_of_removal inside

theorem Arguments.sizeOf_of_removal {arguments arguments' : Arguments} :
    Arguments.Changes .removal arguments arguments' → sizeOf arguments' < sizeOf arguments
  | .angle inside => by simpa using Argument.sizeOf_all_of_removal inside
  | .round inside => by simpa using Node.sizeOf_all_of_removal inside

theorem Argument.sizeOf_of_removal {argument argument' : Argument} :
    Argument.Changes .removal argument argument' → sizeOf argument' < sizeOf argument
  | .type inside => by simpa using Ty.sizeOf_of_removal inside
  | .const inside => by simpa using Node.sizeOf_all_of_removal inside
  | .binding inside => by simpa using Node.sizeOf_all_of_removal inside

theorem Argument.sizeOf_all_of_removal {arguments arguments' : List Argument} :
    Argument.ChangesIn .removal arguments arguments' → sizeOf arguments' < sizeOf arguments
  | .first inside => by simpa using Argument.sizeOf_of_removal inside
  | .later inside => by simpa using Argument.sizeOf_all_of_removal inside

theorem Node.sizeOf_of_removal {node node' : Node} :
    Node.Changes .removal node node' → sizeOf node' < sizeOf node
  | .here (.option _) => by simpa using sizeOf_erase_lt _ _ _
  | .group inside => by simpa using Node.sizeOf_all_of_removal inside
  | .type inside => by simpa using Ty.sizeOf_of_removal inside
  | .implied inside => by simpa using Ty.sizeOf_of_removal inside
  | .arguments inside => by simpa using Arguments.sizeOf_of_removal inside
  | .literal inside => by simpa using Node.sizeOf_all_of_removal inside
  | .attribute inside => by simpa using Node.sizeOf_all_of_removal inside
  | .attributes inside => by simpa using Node.sizeOf_all_of_removal inside
  | .parts inside => by simpa using Node.sizeOf_all_of_removal inside

theorem Node.sizeOf_all_of_removal {nodes nodes' : List Node} :
    Node.ChangesIn .removal nodes nodes' → sizeOf nodes' < sizeOf nodes
  | .first inside => by simpa using Node.sizeOf_of_removal inside
  | .later inside => by simpa using Node.sizeOf_all_of_removal inside

end

theorem Node.Sheds.sizeOf_le {nodes nodes' : List Node} (sheds : Node.Sheds nodes nodes') :
    sizeOf nodes' ≤ sizeOf nodes := by
  induction sheds with
  | refl => exact Nat.le_refl _
  | tail _ changes ih =>
      have smaller := Node.sizeOf_all_of_removal changes
      omega

theorem Node.Sheds.stripAll {nodes nodes' : List Node} (sheds : Node.Sheds nodes nodes') :
    Node.stripAll nodes' = Node.stripAll nodes := by
  induction sheds with
  | refl => rfl
  | tail _ changes ih => exact (Node.stripAll_of_removal changes).trans ih

/-- Terms that are stripped cannot be stripped any further. -/
theorem Node.stripAll_stripAll (nodes : List Node) :
    Node.stripAll (Node.stripAll nodes) = Node.stripAll nodes :=
  Node.Sheds.stripAll (Node.reaches_stripAll nodes)

theorem Node.areBare_stripAll (nodes : List Node) : Node.AreBare (Node.stripAll nodes) := by
  intro next changes
  have smaller : sizeOf next < sizeOf (Node.stripAll nodes) := Node.sizeOf_all_of_removal changes
  have shed : sizeOf (Node.stripAll next) ≤ sizeOf next :=
    Node.Sheds.sizeOf_le (Node.reaches_stripAll next)
  have same : Node.stripAll next = Node.stripAll nodes :=
    (Node.stripAll_of_removal changes).trans (Node.stripAll_stripAll nodes)
  rw [same] at shed
  omega

theorem Node.AreBare.stripAll {nodes : List Node} (bare : Node.AreBare nodes) :
    Node.stripAll nodes = nodes := by
  rcases (Node.reaches_stripAll nodes).cases_head with same | ⟨next, changes, -⟩
  · exact same.symm
  · exact absurd changes (bare next)

/-- Stripping removes the option attributes of structures and fields, at any depth, and nothing
else: the stripped item is the only one that comes of it by such removals and leaves none to be
made. So an item is stripped once and for all, and one without such attributes stays as it is. -/
theorem Item.options_removed (item : Item) :
    (∀ nodes, Node.Sheds item.nodes nodes ∧ Node.AreBare nodes ↔
      nodes = Node.stripAll item.nodes) ∧
    item.strippedTrees = Node.treesAll (Node.stripAll item.nodes) ∧
    Node.stripAll (Node.stripAll item.nodes) = Node.stripAll item.nodes ∧
    (Node.AreBare item.nodes ↔ Node.stripAll item.nodes = item.nodes) := by
  refine ⟨fun nodes => ⟨?_, ?_⟩, rfl, Node.stripAll_stripAll item.nodes, Node.AreBare.stripAll, ?_⟩
  · rintro ⟨sheds, bare⟩
    exact bare.stripAll.symm.trans sheds.stripAll
  · rintro rfl
    exact ⟨Node.reaches_stripAll item.nodes, Node.areBare_stripAll item.nodes⟩
  · intro same
    rw [← same]
    exact Node.areBare_stripAll item.nodes

end SlotSum
