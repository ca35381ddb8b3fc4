import SlotSum.Proofs.Payload.Overlap

/-!
Types that are alike except in what is not compared part by part. A comparison goes into paths,
references, slices, arrays and tuples, and there it sees neither parentheses nor lifetimes nor the
way by which a path leads to a type. It goes neither into pointers, function types and trait objects
nor into constants: these are taken for one if they print alike, and the types among them also if a
parameter occurs in one of them.
-/

namespace SlotSum

/-- What has to hold of two parts in the same place that are not compared part by part. -/
structure Matching where
  /-- Pointers, function types and trait objects of one form. -/
  types : Ty → Ty → Prop
  /-- The lengths of arrays. -/
  lengths : List Node → List Node → Prop
  /-- Constants and bindings among the arguments of a path. -/
  arguments : Argument → Argument → Prop
  /-- The inputs and the output behind a function trait. -/
  signatures : List Node → List Node → Prop

namespace Matching

/-- Parts match as long as they have the same form. -/
def any : Matching := ⟨fun _ _ => True, fun _ _ => True, fun _ _ => True, fun _ _ => True⟩

/-- Parts match if they print alike. Types match also if a parameter occurs in one of them, and
lengths are told apart only if both are literals. -/
def byText (params : List String) : Matching where
  types a b := a.mentions params = true ∨ b.mentions params = true ∨ a.key = b.key
  lengths a b := ∀ attributes attributes' text text', a = [.literal attributes false text] →
    b = [.literal attributes' false text'] → text = text'
  arguments a b := Tree.renderAll a.trees = Tree.renderAll b.trees
  signatures a b := Tree.renderAll (Node.treesAll a) = Tree.renderAll (Node.treesAll b)

end Matching

/-- A type that may be any other one: a parameter, or a projection. -/
def Ty.isOpen (params : List String) : Ty → Bool
  | .path rooted segments =>
    (Ty.path rooted segments).isParam params || Ty.isProjection params segments
  | .projection .. => true
  | _ => false

/-- An argument that is a constant: an expression, or the name of a constant parameter, which reads
as a type. -/
def Argument.isConstant (consts : List String) : Argument → Bool
  | .type inner => inner.isParam consts
  | .const _ => true
  | _ => false

variable (params consts : List String) (matching : Matching)

mutual

/-- Two types are alike whatever groups, parentheses and lifetimes they are written with, and by
whatever path they are reached. Where they are not compared part by part, they match. -/
inductive Ty.Alike : Ty → Ty → Prop
  | isOpen (either : a.bare.isOpen params = true ∨ b.bare.isOpen params = true) : Ty.Alike a b
  | own (left : a.bare = .path rooted segments) (right : b.bare = .path rooted' segments')
      (own : Ty.isOwnName rooted segments = true ∨ Ty.isOwnName rooted' segments' = true) :
      Ty.Alike a b
  | path (left : a.bare = .path rooted segments) (right : b.bare = .path rooted' segments')
      (aligned : ∀ (place : Nat) (first second : Segment),
        (segments.dropWhile Ty.isLeading).reverse[place]? = some first →
        (segments'.dropWhile Ty.isLeading).reverse[place]? = some second →
        Segment.Alike first second) :
      Ty.Alike a b
  | reference (left : a.bare = .reference lifetime mutable target)
      (right : b.bare = .reference lifetime' mutable target')
      (targets : Ty.Alike target target') :
      Ty.Alike a b
  | slice (left : a.bare = .slice element) (right : b.bare = .slice element')
      (elements : Ty.Alike element element') :
      Ty.Alike a b
  | array (left : a.bare = .array element length) (right : b.bare = .array element' length')
      (lengths : matching.lengths length length') (elements : Ty.Alike element element') :
      Ty.Alike a b
  | tuple (left : a.bare = .tuple elements trailing) (right : b.bare = .tuple elements' trailing')
      (lengths : elements.length = elements'.length)
      (each : ∀ (place : Nat) (first second : Ty), elements[place]? = some first →
        elements'[place]? = some second → Ty.Alike first second) :
      Ty.Alike a b
  | never (left : a.bare = .never) (right : b.bare = .never) : Ty.Alike a b
  | composite (left : a.bare = .composite form parts) (right : b.bare = .composite form parts')
      (agree : (Ty.composite form parts).isTextual = true →
        matching.types (.composite form parts) (.composite form parts')) :
      Ty.Alike a b

inductive Segment.Alike : Segment → Segment → Prop
  | bare : Segment.Alike (.mk name .none) (.mk name .none)
  | angle (lengths : arguments.length = arguments'.length)
      (each : ∀ (place : Nat) (first second : Argument), arguments[place]? = some first →
        arguments'[place]? = some second → Argument.Alike first second) :
      Segment.Alike (.mk name (.angle turbofish arguments trailing))
        (.mk name (.angle turbofish' arguments' trailing'))
  | round (agree : matching.signatures parts parts') :
      Segment.Alike (.mk name (.round parts)) (.mk name (.round parts'))

inductive Argument.Alike : Argument → Argument → Prop
  | lifetime : Argument.Alike (.lifetime name) (.lifetime name')
  | type (types : Ty.Alike first second) : Argument.Alike (.type first) (.type second)
  | constant (left : first.isConstant consts = true) (right : second.isConstant consts = true)
      (agree : matching.arguments first second) :
      Argument.Alike first second
  | binding (agree : matching.arguments (.binding parts) (.binding parts')) :
      Argument.Alike (.binding parts) (.binding parts')

end

variable {params consts matching}

/-! ### Symmetry -/

mutual

theorem Ty.Alike.symm {a b : Ty} : Ty.Alike params consts (.byText params) a b →
    Ty.Alike params consts (.byText params) b a
  | .isOpen either => .isOpen either.symm
  | .own left right own => .own right left own.symm
  | .path left right aligned =>
    .path right left fun place first second here there =>
      (aligned place second first there here).symm
  | .reference left right targets => .reference right left targets.symm
  | .slice left right elements => .slice right left elements.symm
  | .array left right lengths elements =>
    .array right left (fun _ _ _ _ here there => (lengths _ _ _ _ there here).symm) elements.symm
  | .tuple left right lengths each =>
    .tuple right left lengths.symm fun place first second here there =>
      (each place second first there here).symm
  | .never left right => .never right left
  | .composite left right agree => .composite right left fun compared => by
      rcases agree compared with here | there | texts
      · exact .inr (.inl here)
      · exact .inl there
      · exact .inr (.inr texts.symm)

theorem Segment.Alike.symm {a b : Segment} : Segment.Alike params consts (.byText params) a b →
    Segment.Alike params consts (.byText params) b a
  | .bare => .bare
  | .angle lengths each =>
    .angle lengths.symm fun place first second here there =>
      (each place second first there here).symm
  | .round agree => .round agree.symm

theorem Argument.Alike.symm {a b : Argument} : Argument.Alike params consts (.byText params) a b →
    Argument.Alike params consts (.byText params) b a
  | .lifetime => .lifetime
  | .type types => .type types.symm
  | .constant left right agree => .constant right left agree.symm
  | .binding agree => .binding agree.symm

end

theorem Ty.Alike.of_bare {a a' b b' : Ty} (alike : Ty.Alike params consts matching a b)
    (left : a'.bare = a.bare) (right : b'.bare = b.bare) :
    Ty.Alike params consts matching a' b' := by
  cases alike with
  | isOpen either => exact .isOpen (by rwa [left, right])
  | own left' right' own => exact .own (left.trans left') (right.trans right') own
  | path left' right' aligned => exact .path (left.trans left') (right.trans right') aligned
  | reference left' right' targets =>
      exact .reference (left.trans left') (right.trans right') targets
  | slice left' right' elements => exact .slice (left.trans left') (right.trans right') elements
  | array left' right' lengths elements =>
      exact .array (left.trans left') (right.trans right') lengths elements
  | tuple left' right' lengths each =>
      exact .tuple (left.trans left') (right.trans right') lengths each
  | never left' right' => exact .never (left.trans left') (right.trans right')
  | composite left' right' agree =>
      exact .composite (left.trans left') (right.trans right') agree

/-! ### Types of one form -/

theorem Ty.overlaps_of_bare {a b a' b' : Ty} (left : a.bare = a') (right : b.bare = b') :
    a.overlaps params b = a'.overlaps params b' := by
  rw [← Ty.bare_overlaps, ← Ty.overlaps_bare, left, right]

section

attribute [local simp] Ty.overlaps Ty.bare Ty.isParam Ty.segmentOverlaps Ty.argumentsOverlap
  Segment.name Segment.arguments

/-- Paths overlap if one of them may be any type, or if their segments do. -/
theorem Ty.overlaps_path {rooted rooted' : Bool} {segments segments' : List Segment} :
    (Ty.path rooted segments).overlaps params (.path rooted' segments') = true ↔
      ((Ty.path rooted segments).isOpen params = true ∨
          (Ty.path rooted' segments').isOpen params = true) ∨
      (Ty.isOwnName rooted segments = true ∨ Ty.isOwnName rooted' segments' = true) ∨
      Ty.segmentsOverlap params true segments (segments'.dropWhile Ty.isLeading) = true := by
  simp only [Ty.overlaps, Ty.bare, Ty.isOpen, Bool.or_eq_true]
  grind

theorem Ty.overlaps_reference {lifetime lifetime' : Option String} {mutable mutable' : Bool}
    {a b : Ty} :
    (Ty.reference lifetime mutable a).overlaps params (.reference lifetime' mutable' b) = true ↔
      mutable = mutable' ∧ a.overlaps params b = true := by
  simp

theorem Ty.overlaps_slice {a b : Ty} :
    (Ty.slice a).overlaps params (.slice b) = a.overlaps params b := by
  simp

theorem Ty.lengthsOverlap_iff {length length' : List Node} :
    Ty.lengthsOverlap length length' = true ↔ (Matching.byText params).lengths length length' := by
  unfold Ty.lengthsOverlap
  split
  · rename_i attributes text attributes' text'
    constructor
    · rintro same _ _ _ _ ⟨⟩ ⟨⟩
      exact beq_iff_eq.mp same
    · intro agree
      exact beq_iff_eq.mpr (agree _ _ _ _ rfl rfl)
  · rename_i notLiterals
    refine ⟨fun _ attributes attributes' text text' here there => ?_, fun _ => rfl⟩
    exact (notLiterals _ _ _ _ here there).elim

theorem Ty.overlaps_array {a b : Ty} {length length' : List Node} :
    (Ty.array a length).overlaps params (.array b length') = true ↔
      (Matching.byText params).lengths length length' ∧ a.overlaps params b = true := by
  rw [← Ty.lengthsOverlap_iff]
  simp

theorem Ty.overlaps_tuple {elements elements' : List Ty} {trailing trailing' : Bool} :
    (Ty.tuple elements trailing).overlaps params (.tuple elements' trailing') = true ↔
      elements.length = elements'.length ∧ Ty.allOverlap params elements elements' = true := by
  simp

theorem Ty.overlaps_composite {form : Form} {parts parts' : List Node} :
    (Ty.composite form parts).overlaps params (.composite form parts') = true ↔
      ((Ty.composite form parts).isTextual = true →
        (Matching.byText params).types (.composite form parts) (.composite form parts')) := by
  have noParam : (Ty.composite form parts').isParam params = false := rfl
  simp only [Ty.overlaps, Ty.bare, noParam, Bool.false_or, Ty.looselyOverlap, Ty.kind,
    ne_eq, not_true_eq_false, decide_false, Bool.and_false, Bool.false_eq_true, if_false,
    decide_true, Bool.true_and, Matching.byText]
  cases (Ty.composite form parts).isTextual <;>
    cases (Ty.composite form parts).mentions params <;>
    cases (Ty.composite form parts').mentions params <;> simp

theorem Ty.segmentOverlaps_angle {name name' : String} {turbofish turbofish' : Bool}
    {arguments arguments' : List Argument} {trailing trailing' : Bool} :
    Ty.segmentOverlaps params (.mk name (.angle turbofish arguments trailing))
        (.mk name' (.angle turbofish' arguments' trailing')) = true ↔
      name = name' ∧ arguments.length = arguments'.length ∧
        Ty.allArgumentsOverlap params arguments arguments' = true := by
  simp

theorem Ty.segmentOverlaps_round {name name' : String} {parts parts' : List Node} :
    Ty.segmentOverlaps params (.mk name (.round parts)) (.mk name' (.round parts')) = true ↔
      name = name' ∧ (Matching.byText params).signatures parts parts' := by
  simp [Matching.byText]

end

/-! ### Types that may be any other one -/

theorem Ty.uncertain_of_isOpen {type : Ty} (free : type.isOpen params = true)
    (noParam : type.isParam params = false) :
    type.isStructural params = false ∧ type.kind = .path := by
  cases type with
  | path rooted segments =>
      have projection : Ty.isProjection params segments = true := by
        simpa [Ty.isOpen, noParam] using free
      exact ⟨by simp [Ty.isStructural, projection], rfl⟩
  | projection => exact ⟨rfl, rfl⟩
  | _ => cases free

theorem Ty.looselyOverlap_of_uncertain {a b : Ty}
    (either : (a.isStructural params = false ∧ a.kind = .path) ∨
      (b.isStructural params = false ∧ b.kind = .path)) :
    Ty.looselyOverlap params a b = true := by
  unfold Ty.looselyOverlap
  split
  · rename_i apart
    simp only [Bool.and_eq_true] at apart
    rcases either with ⟨uncertain, -⟩ | ⟨uncertain, -⟩
    · simp [uncertain] at apart
    · simp [uncertain] at apart
  · split
    · rename_i compared
      simp only [Bool.and_eq_true, decide_eq_true_eq] at compared
      obtain ⟨⟨⟨kinds, textual⟩, -⟩, -⟩ := compared
      have path : a.kind = .path := by
        rcases either with ⟨-, path⟩ | ⟨-, path⟩
        · exact path
        · exact kinds.trans path
      cases a with
      | composite form parts => cases path
      | _ => cases textual
    · rfl

theorem Ty.isParam_or_looselyOverlap (a : Ty) {b : Ty} (free : b.isOpen params = true) :
    (b.isParam params || Ty.looselyOverlap params a b) = true := by
  cases param : b.isParam params with
  | true => rfl
  | false => exact Ty.looselyOverlap_of_uncertain (.inr (Ty.uncertain_of_isOpen free param))

theorem Ty.overlaps_open_path {rooted : Bool} {segments : List Segment}
    (free : (Ty.path rooted segments).isOpen params = true) : (a : Ty) →
    a.overlaps params (.path rooted segments) = true
  | .group inner => by simpa [Ty.overlaps] using Ty.overlaps_open_path free inner
  | .paren inner => by simpa [Ty.overlaps] using Ty.overlaps_open_path free inner
  | .path .. => Ty.overlaps_path.mpr (.inl (.inr free))
  | .projection .. | .reference .. | .slice .. | .array .. | .tuple .. | .never
  | .composite .. => by
      rw [Ty.overlaps]
      exact Ty.isParam_or_looselyOverlap _ free

theorem Ty.overlaps_open_projection {subject : Ty} {qualified rooted : Bool}
    {owner rest : List Segment} : (a : Ty) →
    a.overlaps params (.projection subject qualified rooted owner rest) = true
  | .group inner => by simpa [Ty.overlaps] using Ty.overlaps_open_projection inner
  | .paren inner => by simpa [Ty.overlaps] using Ty.overlaps_open_projection inner
  | .path .. => by
      rw [Ty.overlaps, Bool.or_assoc]
      exact Bool.or_eq_true_iff.mpr (.inr (Ty.isParam_or_looselyOverlap _ rfl))
  | .projection .. | .reference .. | .slice .. | .array .. | .tuple .. | .never
  | .composite .. => by
      rw [Ty.overlaps]
      exact Ty.isParam_or_looselyOverlap _ rfl

theorem Ty.overlaps_of_isOpen_right {b : Ty} (free : b.bare.isOpen params = true) (a : Ty) :
    a.overlaps params b = true := by
  rw [← Ty.overlaps_bare]
  cases bare : b.bare with
  | path rooted segments =>
      rw [bare] at free
      exact Ty.overlaps_open_path free a
  | projection => exact Ty.overlaps_open_projection a
  | _ =>
      rw [bare] at free
      cases free

theorem Ty.overlaps_of_isOpen_left {b : Ty} : (a : Ty) → a.bare.isOpen params = true →
    a.overlaps params b = true
  | .group inner, free => by simpa [Ty.overlaps] using Ty.overlaps_of_isOpen_left inner free
  | .paren inner, free => by simpa [Ty.overlaps] using Ty.overlaps_of_isOpen_left inner free
  | .path rooted segments, free => by
      cases bare : b.bare with
      | path =>
          rw [Ty.overlaps_of_bare rfl bare]
          exact Ty.overlaps_path.mpr (.inl (.inl free))
      | _ =>
          simp only [Ty.overlaps, bare]
          cases param : (Ty.path rooted segments).isParam params with
          | true => rfl
          | false =>
              have uncertain : (Ty.path rooted segments).isStructural params = false ∧ _ :=
                Ty.uncertain_of_isOpen free param
              rw [Ty.looselyOverlap_of_uncertain (.inl uncertain), Bool.or_true]
  | .projection .., _ => by
      rw [Ty.overlaps, Ty.looselyOverlap_of_uncertain (.inl ⟨rfl, rfl⟩), Bool.or_true]

/-! ### Constants -/

theorem Ty.eq_of_isParam {type : Ty} (param : type.isParam params = true) :
    ∃ name, type = .path false [.mk name .none] := by
  unfold Ty.isParam at param
  split at param
  · rename_i name
    exact ⟨name, rfl⟩
  · cases param

theorem Ty.text_name (name : String) :
    Tree.renderAll (Ty.path false [.mk name .none]).trees = name := by
  simp [Ty.trees, rootMark, Segment.treesAll, Segment.trees, Arguments.trees, Tree.seq,
    Tree.renderAll, Tree.render, Tree.gap]

theorem Ty.alike_of_names {name name' : String}
    (overlap : (Ty.path false [.mk name .none]).overlaps params (.path false [.mk name' .none]) =
      true) :
    Ty.Alike params consts matching (.path false [.mk name .none])
      (.path false [.mk name' .none]) := by
  rcases Ty.overlaps_path.mp overlap with either | own | overlap
  · exact .isOpen either
  · exact .own rfl rfl own
  · refine .path rfl rfl fun place first second here there => ?_
    have segments := Ty.aligned_of_segmentsOverlap overlap here there
    have same := List.mem_singleton.mp (Ty.mem_of_place here)
    have same' := List.mem_singleton.mp (Ty.mem_of_place there)
    subst same same'
    obtain rfl : name = name' := by
      simpa [Ty.segmentOverlaps, Ty.argumentsOverlap, Segment.name, Segment.arguments]
        using segments
    exact .bare

theorem Ty.overlaps_name (name : String) :
    (Ty.path false [.mk name .none]).overlaps params (.path false [.mk name .none]) = true := by
  refine Ty.overlaps_path.mpr (.inr (.inr ?_))
  refine Ty.segmentsOverlap_of_aligned fun place first second here there => ?_
  obtain rfl := Option.some.inj (here.symm.trans there)
  have same := List.mem_singleton.mp (Ty.mem_of_place here)
  subst same
  simp [Ty.segmentOverlaps, Ty.argumentsOverlap, Segment.name, Segment.arguments]

theorem Argument.overlaps_of_text {first second : Argument}
    (constant : first.isConstant consts = true) (constant' : second.isConstant consts = true)
    (agree : (Matching.byText params).arguments first second) :
    Ty.argumentOverlaps params first second = true := by
  have texts : Tree.renderAll first.trees = Tree.renderAll second.trees := agree
  cases first with
  | type inner =>
      cases second with
      | type inner' =>
          obtain ⟨name, rfl⟩ := Ty.eq_of_isParam constant
          obtain ⟨name', rfl⟩ := Ty.eq_of_isParam constant'
          have printed := Ty.text_name name
          have printed' := Ty.text_name name'
          simp only [Argument.trees, Argument.treesEach, List.flatMap_cons, List.flatMap_nil,
            List.append_nil, printed, printed'] at texts
          subst texts
          simpa [Ty.argumentOverlaps] using Ty.overlaps_name name
      | const => simpa [Ty.argumentOverlaps] using texts
      | _ => cases constant'
  | const =>
      cases second with
      | type | const => simpa [Ty.argumentOverlaps] using texts
      | _ => cases constant'
  | _ => cases constant

theorem Argument.alike_of_isConstant {first second : Argument}
    (constant : first.isConstant consts = true) (constant' : second.isConstant consts = true)
    (overlap : Ty.argumentOverlaps params first second = true) :
    Argument.Alike params consts (.byText params) first second := by
  cases first with
  | type inner =>
      cases second with
      | type inner' =>
          -- two names are compared as types, not by their texts
          obtain ⟨name, rfl⟩ := Ty.eq_of_isParam constant
          obtain ⟨name', rfl⟩ := Ty.eq_of_isParam constant'
          exact .type (Ty.alike_of_names (by simpa [Ty.argumentOverlaps] using overlap))
      | const =>
          exact .constant constant constant'
            (by simpa [Ty.argumentOverlaps, Matching.byText] using overlap)
      | _ => cases constant'
  | const =>
      cases second with
      | type | const =>
          exact .constant constant constant'
            (by simpa [Ty.argumentOverlaps, Matching.byText] using overlap)
      | _ => cases constant'
  | _ => cases constant

/-! ### Alike types overlap -/

mutual

theorem Ty.overlaps_of_alike {a b : Ty} :
    Ty.Alike params consts (.byText params) a b → a.overlaps params b = true
  | .isOpen (.inl free) => Ty.overlaps_of_isOpen_left a free
  | .isOpen (.inr free) => Ty.overlaps_of_isOpen_right free a
  | .own left right own => by
      rw [Ty.overlaps_of_bare left right]
      exact Ty.overlaps_path.mpr (.inr (.inl own))
  | .path left right aligned => by
      rw [Ty.overlaps_of_bare left right]
      refine Ty.overlaps_path.mpr (.inr (.inr ?_))
      refine Ty.segmentsOverlap_of_aligned fun place first second here there => ?_
      exact Segment.overlaps_of_alike (aligned place first second here there)
  | .reference left right targets => by
      rw [Ty.overlaps_of_bare left right]
      exact Ty.overlaps_reference.mpr ⟨rfl, Ty.overlaps_of_alike targets⟩
  | .slice left right elements => by
      rw [Ty.overlaps_of_bare left right, Ty.overlaps_slice]
      exact Ty.overlaps_of_alike elements
  | .array left right lengths elements => by
      rw [Ty.overlaps_of_bare left right]
      exact Ty.overlaps_array.mpr ⟨lengths, Ty.overlaps_of_alike elements⟩
  | .tuple left right lengths each => by
      rw [Ty.overlaps_of_bare left right]
      refine Ty.overlaps_tuple.mpr ⟨lengths, ?_⟩
      exact Ty.allOverlap_of_each fun place first second here there =>
        Ty.overlaps_of_alike (each place first second here there)
  | .never left right => by
      rw [Ty.overlaps_of_bare left right]
      simp [Ty.overlaps, Ty.bare, Ty.looselyOverlap, Ty.isTextual]
  | .composite left right agree => by
      rw [Ty.overlaps_of_bare left right]
      exact Ty.overlaps_composite.mpr agree

theorem Segment.overlaps_of_alike {a b : Segment} :
    Segment.Alike params consts (.byText params) a b → Ty.segmentOverlaps params a b = true
  | .bare => by simp [Ty.segmentOverlaps, Ty.argumentsOverlap, Segment.name, Segment.arguments]
  | .angle lengths each => by
      refine Ty.segmentOverlaps_angle.mpr ⟨rfl, lengths, ?_⟩
      exact Ty.allArgumentsOverlap_of_each fun place first second here there =>
        Argument.overlaps_of_alike (each place first second here there)
  | .round agree => Ty.segmentOverlaps_round.mpr ⟨rfl, agree⟩

theorem Argument.overlaps_of_alike {a b : Argument} :
    Argument.Alike params consts (.byText params) a b → Ty.argumentOverlaps params a b = true
  | .lifetime => by simp [Ty.argumentOverlaps]
  | .type types => by simpa [Ty.argumentOverlaps] using Ty.overlaps_of_alike types
  | .constant left right agree => Argument.overlaps_of_text left right agree
  | .binding agree => by simpa [Ty.argumentOverlaps, Matching.byText] using agree

end

/-! ### Types that overlap are alike by their texts -/

mutual

theorem Ty.alike_of_overlaps {a b : Ty} : Ty.Alike params consts matching a b →
    a.overlaps params b = true → Ty.Alike params consts (.byText params) a b
  | .isOpen either, _ => .isOpen either
  | .own left right own, _ => .own left right own
  | .path left right aligned, overlap => by
      rw [Ty.overlaps_of_bare left right] at overlap
      rcases Ty.overlaps_path.mp overlap with either | own | overlap
      · exact .isOpen (by rwa [left, right])
      · exact .own left right own
      · refine .path left right fun place first second here there => ?_
        exact Segment.alike_of_overlaps (aligned place first second here there)
          (Ty.aligned_of_segmentsOverlap overlap here there)
  | .reference left right targets, overlap => by
      rw [Ty.overlaps_of_bare left right] at overlap
      have inner := (Ty.overlaps_reference.mp overlap).2
      exact .reference left right (Ty.alike_of_overlaps targets inner)
  | .slice left right elements, overlap => by
      rw [Ty.overlaps_of_bare left right, Ty.overlaps_slice] at overlap
      exact .slice left right (Ty.alike_of_overlaps elements overlap)
  | .array left right _ elements, overlap => by
      rw [Ty.overlaps_of_bare left right] at overlap
      obtain ⟨lengths, inner⟩ := Ty.overlaps_array.mp overlap
      exact .array left right lengths (Ty.alike_of_overlaps elements inner)
  | .tuple left right lengths each, overlap => by
      rw [Ty.overlaps_of_bare left right] at overlap
      have all := (Ty.overlaps_tuple.mp overlap).2
      refine .tuple left right lengths fun place first second here there => ?_
      exact Ty.alike_of_overlaps (each place first second here there)
        (Ty.each_of_allOverlap all here there)
  | .never left right, _ => .never left right
  | .composite left right _, overlap => by
      rw [Ty.overlaps_of_bare left right] at overlap
      exact .composite left right (Ty.overlaps_composite.mp overlap)

theorem Segment.alike_of_overlaps {a b : Segment} : Segment.Alike params consts matching a b →
    Ty.segmentOverlaps params a b = true → Segment.Alike params consts (.byText params) a b
  | .bare, _ => .bare
  | .angle lengths each, overlap => by
      have all := (Ty.segmentOverlaps_angle.mp overlap).2.2
      refine .angle lengths fun place first second here there => ?_
      exact Argument.alike_of_overlaps (each place first second here there)
        (Ty.each_of_allArgumentsOverlap all here there)
  | .round _, overlap => .round (Ty.segmentOverlaps_round.mp overlap).2

theorem Argument.alike_of_overlaps {a b : Argument} : Argument.Alike params consts matching a b →
    Ty.argumentOverlaps params a b = true → Argument.Alike params consts (.byText params) a b
  | .lifetime, _ => .lifetime
  | .type types, overlap =>
    .type (Ty.alike_of_overlaps types (by simpa [Ty.argumentOverlaps] using overlap))
  | .constant left right _, overlap => Argument.alike_of_isConstant left right overlap
  | .binding _, overlap =>
    .binding (by simpa [Ty.argumentOverlaps, Matching.byText] using overlap)

end

/-- Types that are alike, whatever has to match in them, overlap just if they are alike by their
texts. -/
theorem Ty.overlaps_iff_alike {a b : Ty} (alike : Ty.Alike params consts matching a b) :
    a.overlaps params b = true ↔ Ty.Alike params consts (.byText params) a b :=
  ⟨Ty.alike_of_overlaps alike, Ty.overlaps_of_alike⟩

end SlotSum
