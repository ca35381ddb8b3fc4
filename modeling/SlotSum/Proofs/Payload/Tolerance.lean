import SlotSum.Proofs.Payload.Alike
import SlotSum.Proofs.Source.Mention

/-!
The comparison of payload types as a relation. Every type overlaps itself, two types overlap in
either order, and types that overlap still do so when further names are parameters: a parameter can
only make a comparison more lenient. The last two are shown together, since one induction over the
first type can turn a comparison around and add parameters at the same time.
-/

namespace SlotSum

variable {params larger : List String}

/-! ### More parameters -/

theorem Ty.mentions_mono (within : params ⊆ larger) {type : Ty}
    (mentioned : type.mentions params = true) : type.mentions larger = true := by
  obtain ⟨inner, ⟨first, rest, path, known⟩, below⟩ := Ty.mentions_iff.mp mentioned
  exact Ty.mentions_iff.mpr ⟨inner, ⟨first, rest, path, within known⟩, below⟩

theorem Ty.isParam_mono (within : params ⊆ larger) {type : Ty}
    (param : type.isParam params = true) : type.isParam larger = true := by
  obtain ⟨name, rfl⟩ := Ty.eq_of_isParam param
  have known : name ∈ params := List.contains_iff_mem.mp param
  exact List.contains_iff_mem.mpr (within known)

theorem Ty.isProjection_mono (within : params ⊆ larger) {segments : List Segment}
    (projection : Ty.isProjection params segments = true) :
    Ty.isProjection larger segments = true := by
  simp only [Ty.isProjection, Bool.and_eq_true, Option.any_eq_true, List.contains_iff_mem]
    at projection ⊢
  obtain ⟨long, first, head, known⟩ := projection
  exact ⟨long, first, head, within known⟩

theorem Ty.isOpen_mono (within : params ⊆ larger) {type : Ty}
    (free : type.isOpen params = true) : type.isOpen larger = true := by
  cases type with
  | path rooted segments =>
      simp only [Ty.isOpen, Bool.or_eq_true] at free ⊢
      exact free.imp (Ty.isParam_mono within) (Ty.isProjection_mono within)
  | projection => rfl
  | _ => cases free

theorem Ty.isStructural_of_larger (within : params ⊆ larger) {type : Ty}
    (structural : type.isStructural larger = true) : type.isStructural params = true := by
  cases type with
  | path rooted segments =>
      simp only [Ty.isStructural, Bool.not_eq_true'] at structural ⊢
      cases projection : Ty.isProjection params segments with
      | false => rfl
      | true => simp [Ty.isProjection_mono within projection] at structural
  | _ => exact structural

/-! ### Types that are not compared part by part -/

theorem Ty.isTextual_of_kind {a b : Ty} (kinds : a.kind = b.kind) :
    a.isTextual = b.isTextual := by
  cases a with
  | composite form parts =>
      cases b with
      | composite form' parts' =>
          cases kinds
          rfl
      | _ => cases kinds
  | _ =>
      cases b with
      | composite => cases kinds
      | _ => rfl

theorem Ty.looselyOverlap_turn (within : params ⊆ larger) {a b : Ty}
    (overlap : Ty.looselyOverlap params a b = true) : Ty.looselyOverlap larger b a = true := by
  unfold Ty.looselyOverlap at overlap ⊢
  split
  · rename_i apart
    simp only [Bool.and_eq_true, decide_eq_true_eq, ne_eq] at apart
    obtain ⟨⟨structural', structural⟩, differ⟩ := apart
    have differ' : a.kind ≠ b.kind := fun same => differ same.symm
    simp [Ty.isStructural_of_larger within structural, differ',
      Ty.isStructural_of_larger within structural'] at overlap
  · split
    · rename_i compared
      simp only [Bool.and_eq_true, decide_eq_true_eq, Bool.not_eq_true'] at compared
      obtain ⟨⟨⟨kinds, textual⟩, unmentioned'⟩, unmentioned⟩ := compared
      have fewer {type : Ty} (none : type.mentions larger = false) :
          type.mentions params = false := by
        cases mentioned : type.mentions params with
        | false => rfl
        | true => simp [Ty.mentions_mono within mentioned] at none
      rw [Ty.isTextual_of_kind kinds] at textual
      have texts : a.key = b.key := by
        simpa [kinds, textual, fewer unmentioned, fewer unmentioned'] using overlap
      simp [texts]
    · rfl

theorem Ty.kind_bare : (type : Ty) → type.bare.kind ≠ .grouped
  | .group inner => Ty.kind_bare inner
  | .paren inner => Ty.kind_bare inner
  | .path .. | .projection .. | .reference .. | .slice .. | .array .. | .tuple .. | .never
  | .composite .. => nofun

/-- Types with different constructors overlap if one of them is a parameter, or loosely. -/
theorem Ty.overlaps_of_kind {a b : Ty} (differ : a.bare.kind ≠ b.bare.kind) :
    a.overlaps params b =
      (a.bare.isParam params || b.bare.isParam params ||
        Ty.looselyOverlap params a.bare b.bare) := by
  have plain := Ty.kind_bare a
  rw [← Ty.bare_overlaps]
  generalize a.bare = a at differ plain ⊢
  cases a with
  | group | paren => exact absurd rfl plain
  | projection | never | composite => simp [Ty.overlaps, Ty.isParam]
  | _ =>
      simp only [Ty.overlaps, Bool.or_assoc]
      split
      · rename_i bare
        rw [bare] at differ
        exact absurd rfl differ
      · simp [Ty.isParam]

/-! ### Turning a comparison around -/

variable (params larger) in
/-- Whatever the type overlaps overlaps it as well, also with further parameters. -/
def Ty.Turns (type : Ty) : Prop :=
  ∀ other : Ty, type.overlaps params other = true → other.overlaps larger type = true

variable (params larger) in
def Segment.Turns (segment : Segment) : Prop :=
  ∀ other : Segment, Ty.segmentOverlaps params segment other = true →
    Ty.segmentOverlaps larger other segment = true

variable (params larger) in
def Argument.Turns (argument : Argument) : Prop :=
  ∀ other : Argument, Ty.argumentOverlaps params argument other = true →
    Ty.argumentOverlaps larger other argument = true

/-- Only from types with the same constructor a comparison goes on part by part. -/
theorem Ty.turns_of_kind (within : params ⊆ larger) {type : Ty} (plain : type.bare = type)
    (turns : ∀ other : Ty, type.kind = other.kind →
      type.overlaps params other = true → other.overlaps larger type = true) :
    type.Turns params larger := by
  intro other overlap
  rw [← Ty.overlaps_bare] at overlap
  rw [← Ty.bare_overlaps]
  by_cases kinds : type.kind = other.bare.kind
  · exact turns other.bare kinds overlap
  · have differ : type.bare.kind ≠ other.bare.bare.kind := by rwa [plain, Ty.bare_bare]
    rw [Ty.overlaps_of_kind differ] at overlap
    rw [Ty.overlaps_of_kind (Ne.symm differ)]
    simp only [Bool.or_eq_true] at overlap ⊢
    rcases overlap with (here | there) | loosely
    · exact .inl (.inr (Ty.isParam_mono within here))
    · exact .inl (.inl (Ty.isParam_mono within there))
    · exact .inr (Ty.looselyOverlap_turn within loosely)

theorem Ty.turns_path (within : params ⊆ larger) {rooted : Bool} {segments : List Segment}
    (turn : ∀ segment ∈ segments, segment.Turns params larger) :
    (Ty.path rooted segments).Turns params larger := by
  refine Ty.turns_of_kind within rfl fun other kinds overlap => ?_
  cases other with
  | projection => exact Ty.overlaps_of_isOpen_left _ rfl
  | path rooted' segments' =>
      rcases Ty.overlaps_path.mp overlap with free | own | aligned
      · exact Ty.overlaps_path.mpr
          (.inl (free.symm.imp (Ty.isOpen_mono within) (Ty.isOpen_mono within)))
      · exact Ty.overlaps_path.mpr (.inr (.inl own.symm))
      · refine Ty.overlaps_path.mpr (.inr (.inr ?_))
        refine Ty.segmentsOverlap_of_aligned fun place first second here there => ?_
        exact turn second (Ty.mem_of_place there) first
          (Ty.aligned_of_segmentsOverlap aligned there here)
  | _ => cases kinds

theorem Ty.turns_reference (within : params ⊆ larger) {lifetime : Option String} {mutable : Bool}
    {target : Ty} (turns : target.Turns params larger) :
    (Ty.reference lifetime mutable target).Turns params larger := by
  refine Ty.turns_of_kind within rfl fun other kinds overlap => ?_
  cases other with
  | reference lifetime' mutable' target' =>
      obtain ⟨same, targets⟩ := Ty.overlaps_reference.mp overlap
      exact Ty.overlaps_reference.mpr ⟨same.symm, turns target' targets⟩
  | _ => cases kinds

theorem Ty.turns_slice (within : params ⊆ larger) {element : Ty}
    (turns : element.Turns params larger) : (Ty.slice element).Turns params larger := by
  refine Ty.turns_of_kind within rfl fun other kinds overlap => ?_
  cases other with
  | slice element' =>
      rw [Ty.overlaps_slice] at overlap ⊢
      exact turns element' overlap
  | _ => cases kinds

theorem Ty.turns_array (within : params ⊆ larger) {element : Ty} {length : List Node}
    (turns : element.Turns params larger) : (Ty.array element length).Turns params larger := by
  refine Ty.turns_of_kind within rfl fun other kinds overlap => ?_
  cases other with
  | array element' length' =>
      obtain ⟨lengths, elements⟩ := Ty.overlaps_array.mp overlap
      refine Ty.overlaps_array.mpr ⟨fun _ _ _ _ here there => ?_, turns element' elements⟩
      exact (lengths _ _ _ _ there here).symm
  | _ => cases kinds

theorem Ty.turns_tuple (within : params ⊆ larger) {elements : List Ty} {trailing : Bool}
    (turn : ∀ type ∈ elements, type.Turns params larger) :
    (Ty.tuple elements trailing).Turns params larger := by
  refine Ty.turns_of_kind within rfl fun other kinds overlap => ?_
  cases other with
  | tuple elements' trailing' =>
      obtain ⟨lengths, all⟩ := Ty.overlaps_tuple.mp overlap
      refine Ty.overlaps_tuple.mpr ⟨lengths.symm, ?_⟩
      refine Ty.allOverlap_of_each fun place first second here there => ?_
      exact turn second (List.mem_of_getElem? there) first (Ty.each_of_allOverlap all there here)
  | _ => cases kinds

theorem Ty.overlaps_never : Ty.never.overlaps params .never = true :=
  Ty.overlaps_of_alike (.never rfl rfl : Ty.Alike params [] (.byText params) .never .never)

theorem Ty.turns_never (within : params ⊆ larger) : Ty.never.Turns params larger := by
  refine Ty.turns_of_kind within rfl fun other kinds _ => ?_
  cases other with
  | never => exact Ty.overlaps_never
  | _ => cases kinds

theorem Ty.turns_projection (within : params ⊆ larger) {subject : Ty} {qualified rooted : Bool}
    {owner rest : List Segment} :
    (Ty.projection subject qualified rooted owner rest).Turns params larger :=
  Ty.turns_of_kind within rfl fun other _ _ => Ty.overlaps_of_isOpen_right rfl other

theorem Ty.turns_composite (within : params ⊆ larger) {form : Form} {parts : List Node} :
    (Ty.composite form parts).Turns params larger := by
  refine Ty.turns_of_kind within rfl fun other kinds overlap => ?_
  cases other with
  | composite form' parts' =>
      cases kinds
      refine Ty.overlaps_composite.mpr fun textual => ?_
      rcases Ty.overlaps_composite.mp overlap textual with here | there | texts
      · exact .inr (.inl (Ty.mentions_mono within here))
      · exact .inl (Ty.mentions_mono within there)
      · exact .inr (.inr texts.symm)
  | _ => cases kinds

theorem Segment.turns_angle {name : String} {turbofish trailing : Bool}
    {arguments : List Argument} (turn : ∀ argument ∈ arguments, argument.Turns params larger) :
    (Segment.mk name (.angle turbofish arguments trailing)).Turns params larger := by
  rintro ⟨name', arguments'⟩ overlap
  cases arguments' with
  | angle turbofish' arguments' trailing' =>
      obtain ⟨names, lengths, all⟩ := Ty.segmentOverlaps_angle.mp overlap
      refine Ty.segmentOverlaps_angle.mpr ⟨names.symm, lengths.symm, ?_⟩
      refine Ty.allArgumentsOverlap_of_each fun place first second here there => ?_
      exact turn second (List.mem_of_getElem? there) first
        (Ty.each_of_allArgumentsOverlap all there here)
  | _ => simp [Ty.segmentOverlaps, Ty.argumentsOverlap, Segment.arguments] at overlap

theorem Segment.overlaps_none {name : String} :
    Ty.segmentOverlaps params (.mk name .none) (.mk name .none) = true := by
  simp [Ty.segmentOverlaps, Ty.argumentsOverlap, Segment.name, Segment.arguments]

theorem Segment.turns_none {name : String} : (Segment.mk name .none).Turns params larger := by
  rintro ⟨name', arguments'⟩ overlap
  cases arguments' with
  | none =>
      obtain rfl : name = name' := by
        simpa [Ty.segmentOverlaps, Ty.argumentsOverlap, Segment.name, Segment.arguments]
          using overlap
      exact Segment.overlaps_none
  | _ => simp [Ty.segmentOverlaps, Ty.argumentsOverlap, Segment.arguments] at overlap

theorem Segment.turns_round {name : String} {parts : List Node} :
    (Segment.mk name (.round parts)).Turns params larger := by
  rintro ⟨name', arguments'⟩ overlap
  cases arguments' with
  | round parts' =>
      obtain ⟨names, texts⟩ := Ty.segmentOverlaps_round.mp overlap
      exact Ty.segmentOverlaps_round.mpr ⟨names.symm, texts.symm⟩
  | _ => simp [Ty.segmentOverlaps, Ty.argumentsOverlap, Segment.arguments] at overlap

theorem Argument.turns_type {type : Ty} (turns : type.Turns params larger) :
    (Argument.type type).Turns params larger := by
  intro other overlap
  cases other with
  | type other =>
      rw [Ty.argumentOverlaps] at overlap ⊢
      exact turns other overlap
  | _ =>
      simp only [Ty.argumentOverlaps, beq_iff_eq] at overlap ⊢
      exact overlap.symm

/-- Lifetimes do not differ, and all other arguments that are no types are compared by text. -/
theorem Argument.turns_of_no_type {argument : Argument} (plain : ∀ inner, argument ≠ .type inner) :
    argument.Turns params larger := by
  intro other overlap
  cases argument with
  | type inner => exact absurd rfl (plain inner)
  | lifetime name =>
      cases other with
      | lifetime => rw [Ty.argumentOverlaps]
      | _ =>
          simp only [Ty.argumentOverlaps, beq_iff_eq] at overlap ⊢
          exact overlap.symm
  | const | binding =>
      cases other <;>
        · simp only [Ty.argumentOverlaps, beq_iff_eq] at overlap ⊢
          exact overlap.symm

mutual

theorem Ty.turns (within : params ⊆ larger) : (type : Ty) → type.Turns params larger
  | .group inner => fun other overlap => by
      rw [Ty.overlaps] at overlap
      rw [← Ty.overlaps_bare, Ty.bare_group, Ty.overlaps_bare]
      exact Ty.turns within inner other overlap
  | .paren inner => fun other overlap => by
      rw [Ty.overlaps] at overlap
      rw [← Ty.overlaps_bare, Ty.bare_paren, Ty.overlaps_bare]
      exact Ty.turns within inner other overlap
  | .path _ segments => Ty.turns_path within (Segment.turnEach within segments)
  | .projection .. => Ty.turns_projection within
  | .reference _ _ target => Ty.turns_reference within (Ty.turns within target)
  | .slice element => Ty.turns_slice within (Ty.turns within element)
  | .array element _ => Ty.turns_array within (Ty.turns within element)
  | .tuple elements _ => Ty.turns_tuple within (Ty.turnEach within elements)
  | .never => Ty.turns_never within
  | .composite .. => Ty.turns_composite within

theorem Ty.turnEach (within : params ⊆ larger) : (elements : List Ty) →
    ∀ type ∈ elements, type.Turns params larger
  | [] => by simp
  | first :: rest => by
      rw [List.forall_mem_cons]
      exact ⟨Ty.turns within first, Ty.turnEach within rest⟩

theorem Segment.turns (within : params ⊆ larger) : (segment : Segment) →
    segment.Turns params larger
  | .mk _ .none => Segment.turns_none
  | .mk _ (.angle _ arguments _) => Segment.turns_angle (Argument.turnEach within arguments)
  | .mk _ (.round _) => Segment.turns_round

theorem Segment.turnEach (within : params ⊆ larger) : (segments : List Segment) →
    ∀ segment ∈ segments, segment.Turns params larger
  | [] => by simp
  | first :: rest => by
      rw [List.forall_mem_cons]
      exact ⟨Segment.turns within first, Segment.turnEach within rest⟩

theorem Argument.turns (within : params ⊆ larger) : (argument : Argument) →
    argument.Turns params larger
  | .type inner => Argument.turns_type (Ty.turns within inner)
  | .lifetime _ | .const _ | .binding _ => Argument.turns_of_no_type nofun

theorem Argument.turnEach (within : params ⊆ larger) : (arguments : List Argument) →
    ∀ argument ∈ arguments, argument.Turns params larger
  | [] => by simp
  | first :: rest => by
      rw [List.forall_mem_cons]
      exact ⟨Argument.turns within first, Argument.turnEach within rest⟩

end

theorem Ty.overlaps_symm (a b : Ty) : a.overlaps params b = b.overlaps params a := by
  rw [Bool.eq_iff_iff]
  exact ⟨Ty.turns (List.Subset.refl params) a b, Ty.turns (List.Subset.refl params) b a⟩

theorem Ty.overlaps_mono (within : params ⊆ larger) {a b : Ty}
    (overlap : a.overlaps params b = true) : a.overlaps larger b = true := by
  rw [Ty.overlaps_symm]
  exact Ty.turns within a b overlap

/-! ### Every type overlaps itself -/

mutual

theorem Ty.overlaps_refl : (type : Ty) → type.overlaps params type = true
  | .group inner => by
      rw [Ty.overlaps, ← Ty.overlaps_bare, Ty.bare_group, Ty.overlaps_bare]
      exact Ty.overlaps_refl inner
  | .paren inner => by
      rw [Ty.overlaps, ← Ty.overlaps_bare, Ty.bare_paren, Ty.overlaps_bare]
      exact Ty.overlaps_refl inner
  | .path _ segments => by
      refine Ty.overlaps_path.mpr (.inr (.inr ?_))
      refine Ty.segmentsOverlap_of_aligned fun place first second here there => ?_
      cases here.symm.trans there
      exact Segment.overlapsEach segments first (Ty.mem_of_place here)
  | .projection .. => Ty.overlaps_of_isOpen_left _ rfl
  | .reference _ _ target => Ty.overlaps_reference.mpr ⟨rfl, Ty.overlaps_refl target⟩
  | .slice element => by
      rw [Ty.overlaps_slice]
      exact Ty.overlaps_refl element
  | .array element _ => by
      refine Ty.overlaps_array.mpr ⟨fun _ _ _ _ here there => ?_, Ty.overlaps_refl element⟩
      cases here.symm.trans there
      rfl
  | .tuple elements _ => by
      refine Ty.overlaps_tuple.mpr ⟨rfl, ?_⟩
      refine Ty.allOverlap_of_each fun place first second here there => ?_
      cases here.symm.trans there
      exact Ty.overlapsEach elements first (List.mem_of_getElem? here)
  | .never => Ty.overlaps_never
  | .composite .. => Ty.overlaps_composite.mpr fun _ => .inr (.inr rfl)

theorem Ty.overlapsEach : (elements : List Ty) →
    ∀ type ∈ elements, type.overlaps params type = true
  | [] => by simp
  | first :: rest => by
      rw [List.forall_mem_cons]
      exact ⟨Ty.overlaps_refl first, Ty.overlapsEach rest⟩

theorem Segment.overlaps_refl : (segment : Segment) →
    Ty.segmentOverlaps params segment segment = true
  | .mk _ .none => Segment.overlaps_none
  | .mk _ (.angle _ arguments _) => by
      refine Ty.segmentOverlaps_angle.mpr ⟨rfl, rfl, ?_⟩
      refine Ty.allArgumentsOverlap_of_each fun place first second here there => ?_
      cases here.symm.trans there
      exact Argument.overlapsEach arguments first (List.mem_of_getElem? here)
  | .mk _ (.round _) => Ty.segmentOverlaps_round.mpr ⟨rfl, rfl⟩

theorem Segment.overlapsEach : (segments : List Segment) →
    ∀ segment ∈ segments, Ty.segmentOverlaps params segment segment = true
  | [] => by simp
  | first :: rest => by
      rw [List.forall_mem_cons]
      exact ⟨Segment.overlaps_refl first, Segment.overlapsEach rest⟩

theorem Argument.overlaps_refl : (argument : Argument) →
    Ty.argumentOverlaps params argument argument = true
  | .lifetime _ => by rw [Ty.argumentOverlaps]
  | .type inner => by
      rw [Ty.argumentOverlaps]
      exact Ty.overlaps_refl inner
  | .const _ => by simp [Ty.argumentOverlaps]
  | .binding _ => by simp [Ty.argumentOverlaps]

theorem Argument.overlapsEach : (arguments : List Argument) →
    ∀ argument ∈ arguments, Ty.argumentOverlaps params argument argument = true
  | [] => by simp
  | first :: rest => by
      rw [List.forall_mem_cons]
      exact ⟨Argument.overlaps_refl first, Argument.overlapsEach rest⟩

end

end SlotSum
