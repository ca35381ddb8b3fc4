import Mathlib.Data.List.Nodup
import SlotSum.Proofs.Payload.Plain

/-!
Types that are terms: names with types as their arguments, references, slices and tuples over the
parameters. On terms in which no parameter stands twice the comparison of types is exact. A parameter
of the one term meets a part of the other, and no other part can ask for something else in its place,
so choices that were made for the parts of a term can be put together.
-/

namespace SlotSum

/-- A word that names a type: neither the owner's own name nor a word that leads a path. -/
def isTypeName (name : String) : Bool := name != "Self" && !Ty.isLeading (.mk name .none)

/-- The name of a type constructor. -/
def IsConstructor (params : List String) (name : String) : Prop :=
  isTypeName name = true ∧ name ∉ params

/-- A type that is built from paths of one segment, references, slices and tuples. The arguments of a
segment are types, and a parameter has none. -/
inductive Ty.IsTerm (params : List String) : Ty → Prop
  | group (inner : Ty.IsTerm params type) : Ty.IsTerm params (.group type)
  | paren (inner : Ty.IsTerm params type) : Ty.IsTerm params (.paren type)
  | param (known : name ∈ params) : Ty.IsTerm params (.path false [.mk name .none])
  | name (constructor : IsConstructor params name) : Ty.IsTerm params (.path false [.mk name .none])
  | applied (constructor : IsConstructor params name)
      (arguments : ∀ type ∈ types, Ty.IsTerm params type) :
      Ty.IsTerm params (.path false [.mk name (.angle turbofish (List.map .type types) trailing)])
  | reference (inner : Ty.IsTerm params type) : Ty.IsTerm params (.reference lifetime mutable type)
  | slice (inner : Ty.IsTerm params type) : Ty.IsTerm params (.slice type)
  | tuple (elements : ∀ type ∈ types, Ty.IsTerm params type) :
      Ty.IsTerm params (.tuple types trailing)

variable (params : List String)

mutual

/-- The parameters that occur in a term, in their order and as often as they do. -/
def Ty.occurrences : Ty → List String
  | .group inner => inner.occurrences
  | .paren inner => inner.occurrences
  | .path rooted segments =>
    match (Ty.path rooted segments).param? params with
    | some name => [name]
    | none => Segment.occurrencesIn segments
  | .reference _ _ inner => inner.occurrences
  | .slice inner => inner.occurrences
  | .tuple elements _ => Ty.occurrencesIn elements
  | .array .. => []
  | .projection .. => []
  | .never => []
  | .composite .. => []

def Ty.occurrencesIn : List Ty → List String
  | [] => []
  | first :: rest => first.occurrences ++ Ty.occurrencesIn rest

def Segment.occurrencesIn : List Segment → List String
  | [] => []
  | .mk _ arguments :: rest => arguments.occurrences ++ Segment.occurrencesIn rest

def Arguments.occurrences : Arguments → List String
  | .none => []
  | .angle _ arguments _ => Argument.occurrencesIn arguments
  | .round _ => []

def Argument.occurrencesIn : List Argument → List String
  | [] => []
  | .type type :: rest => type.occurrences ++ Argument.occurrencesIn rest
  | _ :: rest => Argument.occurrencesIn rest

end

/-- A term in which every parameter stands at most once. -/
structure Ty.IsLinear (type : Ty) : Prop where
  term : type.IsTerm params
  once : (type.occurrences params).Nodup

/-- Instances of the two types can be one type. They are chosen independently of each other. -/
def Ty.Meets (a b : Ty) : Prop :=
  ∃ left right : Instantiation,
    (a.instantiate params left).plain = (b.instantiate params right).plain

variable {params} {left right : Instantiation} {name : String} {types : List Ty}

/-! ### Parts of a term -/

section

attribute [local simp] Ty.occurrences Ty.param? Segment.occurrencesIn Arguments.occurrences

theorem Ty.occurrencesIn_eq (types : List Ty) :
    Ty.occurrencesIn params types = types.flatMap (Ty.occurrences params) := by
  induction types with
  | nil => rfl
  | cons first rest ih => simp [Ty.occurrencesIn, ih]

theorem Argument.occurrencesIn_types (types : List Ty) :
    Argument.occurrencesIn params (types.map .type) = types.flatMap (Ty.occurrences params) := by
  induction types with
  | nil => rfl
  | cons first rest ih => simp [Argument.occurrencesIn, ih]

theorem Ty.occurrences_param (known : name ∈ params) :
    (Ty.path false [.mk name .none]).occurrences params = [name] := by
  simp [known]

theorem Ty.occurrences_applied {turbofish trailing : Bool} :
    (Ty.path false [.mk name (.angle turbofish (types.map .type) trailing)]).occurrences params =
      types.flatMap (Ty.occurrences params) := by
  simp [Argument.occurrencesIn_types]

theorem Ty.occurrences_tuple {trailing : Bool} :
    (Ty.tuple types trailing).occurrences params = types.flatMap (Ty.occurrences params) := by
  simp [Ty.occurrencesIn_eq]

theorem Ty.occurrences_bare (type : Ty) :
    type.bare.occurrences params = type.occurrences params := by
  fun_induction Ty.bare type with
  | case1 inner ih => simpa using ih
  | case2 inner ih => simpa using ih
  | case3 type => rfl

end

theorem Ty.IsTerm.bare {type : Ty} (term : type.IsTerm params) : type.bare.IsTerm params := by
  induction term with
  | group _ ih => exact ih
  | paren _ ih => exact ih
  | param known => exact .param known
  | name constructor => exact .name constructor
  | applied constructor arguments _ => exact .applied constructor arguments
  | reference inner _ => exact .reference inner
  | slice inner _ => exact .slice inner
  | tuple elements _ => exact .tuple elements

/-- Terms are among the types of which the comparison misses nothing. -/
theorem Ty.IsTerm.isSimple {type : Ty} (term : type.IsTerm params) : type.isSimple = true := by
  induction term with
  | group _ ih => exact ih
  | paren _ ih => exact ih
  | param => rfl
  | name => rfl
  | applied _ _ ih =>
      simp only [Ty.isSimple, Segment.areSimple, Segment.isSimple, Arguments.isSimple,
        Bool.and_true, Argument.areSimple_iff, List.mem_map]
      rintro _ ⟨type, member, rfl⟩
      exact ih type member
  | reference _ ih => exact ih
  | slice _ ih => exact ih
  | tuple _ ih => exact (Ty.areSimple_iff _).mpr ih

/-! ### Instances of a term -/

theorem Ty.instantiate_param (known : name ∈ params) :
    (Ty.path false [.mk name .none]).instantiate params left = left.param name := by
  simp [Ty.instantiate, Ty.param?, known]

theorem Ty.instantiate_name (constructor : IsConstructor params name) :
    (Ty.path false [.mk name .none]).instantiate params left = .path false [.mk name .none] :=
  Ty.instantiate_path (by simpa [Ty.isParam] using constructor.2) rfl

theorem Ty.instantiate_applied {turbofish trailing : Bool} :
    (Ty.path false [.mk name (.angle turbofish (types.map .type) trailing)]).instantiate params
        left =
      .path false
        [.mk name (.angle turbofish ((types.map (Ty.instantiate params left)).map .type)
          trailing)] := by
  rw [Ty.instantiate_path rfl rfl]
  simp [Segment.instantiate, Arguments.instantiate, Argument.instantiateAll_eq_map,
    Function.comp_def, Argument.instantiate]

theorem Ty.instantiate_tuple {trailing : Bool} :
    (Ty.tuple types trailing).instantiate params left =
      .tuple (types.map (Ty.instantiate params left)) trailing := by
  rw [Ty.instantiate, Ty.instantiateAll_eq_map]

/-- An instance of a term depends on what is chosen for the parameters that occur in it. -/
theorem Ty.IsTerm.instantiate_congr {type : Ty} (term : type.IsTerm params)
    (agree : ∀ name ∈ type.occurrences params, left.param name = right.param name) :
    type.instantiate params left = type.instantiate params right := by
  induction term with
  | group _ ih => exact congrArg Ty.group (ih agree)
  | paren _ ih => exact congrArg Ty.paren (ih agree)
  | param known =>
      rw [Ty.instantiate_param known, Ty.instantiate_param known]
      exact agree _ (by simp [Ty.occurrences_param known])
  | name constructor => rw [Ty.instantiate_name constructor, Ty.instantiate_name constructor]
  | applied constructor _ ih =>
      rw [Ty.occurrences_applied] at agree
      rw [Ty.instantiate_applied, Ty.instantiate_applied, List.map_congr_left fun type member =>
        ih type member fun name occurs => agree name (List.mem_flatMap.mpr ⟨type, member, occurs⟩)]
  | reference _ ih => exact congrArg _ (ih agree)
  | slice _ ih => exact congrArg Ty.slice (ih agree)
  | tuple _ ih =>
      rw [Ty.occurrences_tuple] at agree
      rw [Ty.instantiate_tuple, Ty.instantiate_tuple, List.map_congr_left fun type member =>
        ih type member fun name occurs => agree name (List.mem_flatMap.mpr ⟨type, member, occurs⟩)]

/-! ### Putting choices together -/

instance : Inhabited Instantiation := ⟨⟨fun _ => .never, id⟩⟩

/-- One choice for some names, and another one for all others. -/
def Instantiation.split (names : List String) (inside outside : Instantiation) :
    Instantiation where
  param name := if name ∈ names then inside.param name else outside.param name
  projection := inside.projection

theorem Ty.instantiate_split_inside {type : Ty} (term : type.IsTerm params) :
    type.instantiate params (.split (type.occurrences params) left right) =
      type.instantiate params left :=
  term.instantiate_congr fun name occurs => by simp [Instantiation.split, occurs]

theorem Ty.instantiate_split_outside {type : Ty} {names : List String}
    (term : type.IsTerm params)
    (apart : ∀ name ∈ type.occurrences params, name ∉ names) :
    type.instantiate params (.split names left right) = type.instantiate params right :=
  term.instantiate_congr fun name occurs => by simp [Instantiation.split, apart name occurs]

/-- Choices for the elements of a list, in which no parameter stands twice, are choices for all of
them together. -/
theorem Ty.map_instantiate_split {first : Ty} {rest : List Ty} (term : first.IsTerm params)
    (terms : ∀ type ∈ rest, type.IsTerm params)
    (once : ((first :: rest).flatMap (Ty.occurrences params)).Nodup) :
    (first :: rest).map (Ty.instantiate params (.split (first.occurrences params) left right)) =
      first.instantiate params left :: rest.map (Ty.instantiate params right) := by
  rw [List.flatMap_cons, List.nodup_append] at once
  rw [List.map_cons, Ty.instantiate_split_inside term]
  refine congrArg _ (List.map_congr_left fun type member => ?_)
  refine Ty.instantiate_split_outside (terms type member) fun name occurs own => ?_
  exact once.2.2 name own name (List.mem_flatMap.mpr ⟨type, member, occurs⟩) rfl

/-- Lists of linear terms meet if their elements do. -/
theorem Ty.exists_instances_of_each {types types' : List Ty}
    (terms : ∀ type ∈ types, type.IsTerm params) (terms' : ∀ type ∈ types', type.IsTerm params)
    (once : (types.flatMap (Ty.occurrences params)).Nodup)
    (once' : (types'.flatMap (Ty.occurrences params)).Nodup)
    (lengths : types.length = types'.length)
    (each : ∀ (place : Nat) (a b : Ty), types[place]? = some a → types'[place]? = some b →
      a.Meets params b) :
    ∃ left right : Instantiation,
      (types.map (Ty.instantiate params left)).map Ty.plain =
        (types'.map (Ty.instantiate params right)).map Ty.plain := by
  induction types generalizing types' with
  | nil =>
      obtain rfl : types' = [] := List.length_eq_zero_iff.mp lengths.symm
      exact ⟨default, default, rfl⟩
  | cons first rest ih =>
      cases types' with
      | nil => cases lengths
      | cons first' rest' =>
          have parts := List.forall_mem_cons.mp terms
          have parts' := List.forall_mem_cons.mp terms'
          obtain ⟨left, right, plain⟩ := each 0 first first' rfl rfl
          obtain ⟨left', right', plains⟩ := ih parts.2 parts'.2
            (List.nodup_append.mp (List.flatMap_cons ▸ once)).2.1
            (List.nodup_append.mp (List.flatMap_cons ▸ once')).2.1
            (by simpa using lengths) fun place a b here there => each (place + 1) a b here there
          refine ⟨.split (first.occurrences params) left left',
            .split (first'.occurrences params) right right', ?_⟩
          rw [Ty.map_instantiate_split parts.1 parts.2 once,
            Ty.map_instantiate_split parts'.1 parts'.2 once', List.map_cons, List.map_cons, plain,
            plains]

/-! ### Overlapping terms meet -/

theorem Ty.Meets.of_bare {a b : Ty} (meets : a.Meets params b.bare) : a.Meets params b := by
  obtain ⟨left, right, plain⟩ := meets
  refine ⟨left, right, plain.trans ?_⟩
  rw [← Ty.plain_bare, ← Ty.bare_instantiate, Ty.plain_bare]

/-- Whatever stands in the place of a parameter can be chosen for it. -/
theorem Ty.meets_param {a : Ty} (known : name ∈ params) :
    a.Meets params (.path false [.mk name .none]) := by
  refine ⟨default, ⟨fun _ => a.instantiate params default, id⟩, ?_⟩
  rw [Ty.instantiate_param known]

theorem Ty.Meets.symm {a b : Ty} : a.Meets params b → b.Meets params a
  | ⟨left, right, plain⟩ => ⟨right, left, plain.symm⟩

theorem Ty.IsTerm.isStructural {type : Ty} (term : type.IsTerm params)
    (outside : type.bare = type) : type.isStructural params = true := by
  cases term with
  | @group inner _ => exact absurd (congrArg Ty.kind outside) (Ty.kind_bare inner)
  | @paren inner _ => exact absurd (congrArg Ty.kind outside) (Ty.kind_bare inner)
  | _ => rfl

/-- Terms that overlap have one constructor, unless one of them is a parameter. -/
theorem Ty.IsTerm.kind_eq {a b : Ty} (term : a.IsTerm params) (term' : b.IsTerm params)
    (outside : a.bare = a) (outside' : b.bare = b) (noParam : a.isParam params = false)
    (noParam' : b.isParam params = false) (overlap : a.overlaps params b = true) :
    a.kind = b.kind := by
  refine Decidable.byContradiction fun differ => ?_
  rw [Ty.overlaps_of_kind (by rwa [outside, outside'])] at overlap
  simp [outside, outside', noParam, noParam', Ty.looselyOverlap, term.isStructural outside,
    term'.isStructural outside', differ] at overlap

/-- It is enough to look at terms that have the constructor of the first one. -/
theorem Ty.IsTerm.meets_of_kind {a b : Ty} (term : a.IsTerm params) (outside : a.bare = a)
    (noParam : a.isParam params = false) (linear : b.IsLinear params)
    (overlap : a.overlaps params b = true)
    (each : ∀ other : Ty, other.IsLinear params → a.kind = other.kind →
      other.isParam params = false → a.overlaps params other = true → a.Meets params other) :
    a.Meets params b := by
  refine Ty.Meets.of_bare ?_
  rw [← Ty.overlaps_bare] at overlap
  have term' := linear.term.bare
  cases param : b.bare.isParam params with
  | true =>
      obtain ⟨name, bare⟩ := Ty.eq_of_isParam param
      rw [bare] at param ⊢
      exact Ty.meets_param (List.contains_iff_mem.mp param)
  | false =>
      exact each b.bare ⟨term', by rw [Ty.occurrences_bare]; exact linear.once⟩
        (term.kind_eq term' outside b.bare_bare noParam param overlap) param overlap

theorem IsConstructor.isOpen (constructor : IsConstructor params name) (arguments : Arguments) :
    (Ty.path false [.mk name arguments]).isOpen params = false := by
  cases arguments <;> simp [Ty.isOpen, Ty.isParam, Ty.isProjection, constructor.2]

theorem IsConstructor.isParam (constructor : IsConstructor params name) (arguments : Arguments) :
    (Ty.path false [.mk name arguments]).isParam params = false := by
  cases arguments <;> simp [Ty.isParam, constructor.2]

/-- Paths of one segment overlap through this segment, unless one of them may be any type. -/
theorem IsConstructor.segmentOverlaps {name' : String} {arguments arguments' : Arguments}
    (constructor : IsConstructor params name) (constructor' : IsConstructor params name')
    (overlap : (Ty.path false [.mk name arguments]).overlaps params
      (.path false [.mk name' arguments']) = true) :
    Ty.segmentOverlaps params (.mk name arguments) (.mk name' arguments') = true := by
  have plain := constructor.1
  have plain' := constructor'.1
  simp only [isTypeName, Bool.and_eq_true, bne_iff_ne, Bool.not_eq_true'] at plain plain'
  rcases Ty.overlaps_path.mp overlap with free | own | overlap
  · simp [constructor.isOpen, constructor'.isOpen] at free
  · cases arguments <;> cases arguments' <;> simp [Ty.isOwnName, plain.1, plain'.1] at own
  · have kept : Ty.isLeading (.mk name arguments) = false := plain.2
    have kept' : Ty.isLeading (.mk name' arguments') = false := plain'.2
    have here : ([Segment.mk name arguments].dropWhile Ty.isLeading).reverse[0]? =
        some (.mk name arguments) := by simp [kept]
    have there : ([Segment.mk name' arguments'].dropWhile Ty.isLeading).reverse[0]? =
        some (.mk name' arguments') := by simp [kept']
    exact Ty.aligned_of_segmentsOverlap overlap here there

theorem Ty.each_of_typesOverlap {types types' : List Ty}
    (overlap : Ty.allArgumentsOverlap params (types.map .type) (types'.map .type) = true)
    {place : Nat} {a b : Ty} (here : types[place]? = some a) (there : types'[place]? = some b) :
    a.overlaps params b = true := by
  have here : (types.map Argument.type)[place]? = some (.type a) := by simp [here]
  have there : (types'.map Argument.type)[place]? = some (.type b) := by simp [there]
  simpa only [Ty.argumentOverlaps] using Ty.each_of_allArgumentsOverlap overlap here there

theorem Ty.plain_applied {turbofish trailing : Bool} :
    (Ty.path false [.mk name (.angle turbofish (types.map .type) trailing)]).plain =
      .path false [.mk name (.angle false ((types.map Ty.plain).map .type) false)] := by
  simp [Ty.plain, Segment.plainAll, Segment.plain, Arguments.plain, Argument.plainAll_eq_map,
    Argument.plain]

/-- Lists of linear terms meet if the comparison finds that they overlap place by place. -/
theorem Ty.exists_instances_of_overlaps {types types' : List Ty}
    (terms : ∀ type ∈ types, type.IsTerm params) (terms' : ∀ type ∈ types', type.IsTerm params)
    (once : (types.flatMap (Ty.occurrences params)).Nodup)
    (once' : (types'.flatMap (Ty.occurrences params)).Nodup)
    (lengths : types.length = types'.length)
    (overlap : ∀ (place : Nat) (a b : Ty), types[place]? = some a → types'[place]? = some b →
      a.overlaps params b = true)
    (ih : ∀ type ∈ types, ∀ {other : Ty}, (type.occurrences params).Nodup →
      other.IsLinear params → type.overlaps params other = true → type.Meets params other) :
    ∃ left right : Instantiation,
      (types.map (Ty.instantiate params left)).map Ty.plain =
        (types'.map (Ty.instantiate params right)).map Ty.plain := by
  refine Ty.exists_instances_of_each terms terms' once once' lengths fun place a b here there => ?_
  have member := List.mem_of_getElem? here
  have member' := List.mem_of_getElem? there
  exact ih a member ((List.nodup_flatMap.mp once).1 a member)
    ⟨terms' b member', (List.nodup_flatMap.mp once').1 b member'⟩ (overlap place a b here there)

/-- Linear terms of which the comparison says that they may be one have a common instance. -/
theorem Ty.IsTerm.meets {a b : Ty} (term : a.IsTerm params)
    (once : (a.occurrences params).Nodup) (linear : b.IsLinear params)
    (overlap : a.overlaps params b = true) : a.Meets params b := by
  -- on the first term; the second is a parameter, which takes whatever stands there, or has the
  -- same constructor
  induction term generalizing b with
  | group _ ih => exact ih once linear (by simpa only [Ty.overlaps] using overlap)
  | paren _ ih => exact ih once linear (by simpa only [Ty.overlaps] using overlap)
  | param known => exact (Ty.meets_param known).symm
  | name constructor =>
      refine Ty.IsTerm.meets_of_kind (.name constructor) rfl (constructor.isParam _) linear
        overlap ?_
      rintro _ ⟨term', -⟩ kinds noParam' overlap
      cases term' with
      | param known => simp [Ty.isParam, known] at noParam'
      | name constructor' =>
          have segments := constructor.segmentOverlaps constructor' overlap
          obtain ⟨rfl, -⟩ := by simpa [Ty.segmentOverlaps, Segment.name] using segments
          exact ⟨default, default, rfl⟩
      | applied constructor' =>
          have segments := constructor.segmentOverlaps constructor' overlap
          simp [Ty.segmentOverlaps, Ty.argumentsOverlap, Segment.arguments] at segments
      | _ => cases kinds
  | applied constructor terms ih =>
      refine Ty.IsTerm.meets_of_kind (.applied constructor terms) rfl (constructor.isParam _)
        linear overlap ?_
      rintro _ ⟨term', once'⟩ kinds noParam' overlap
      cases term' with
      | param known => simp [Ty.isParam, known] at noParam'
      | name constructor' =>
          have segments := constructor.segmentOverlaps constructor' overlap
          simp [Ty.segmentOverlaps, Ty.argumentsOverlap, Segment.arguments] at segments
      | applied constructor' terms' =>
          have segments := constructor.segmentOverlaps constructor' overlap
          obtain ⟨rfl, lengths, all⟩ := Ty.segmentOverlaps_angle.mp segments
          rw [Ty.occurrences_applied] at once once'
          obtain ⟨left, right, plain⟩ := Ty.exists_instances_of_overlaps terms terms' once once'
            (by simpa using lengths) (fun _ _ _ => Ty.each_of_typesOverlap all)
            (fun type member other => ih type member)
          refine ⟨left, right, ?_⟩
          rw [Ty.instantiate_applied, Ty.instantiate_applied, Ty.plain_applied, Ty.plain_applied,
            plain]
      | _ => cases kinds
  | reference inner ih =>
      refine Ty.IsTerm.meets_of_kind (.reference inner) rfl rfl linear overlap ?_
      rintro _ ⟨term', once'⟩ kinds _ overlap
      cases term' with
      | reference inner' =>
          obtain ⟨rfl, targets⟩ := Ty.overlaps_reference.mp overlap
          obtain ⟨left, right, plain⟩ := ih once ⟨inner', once'⟩ targets
          exact ⟨left, right, congrArg (Ty.reference none _) plain⟩
      | _ => cases kinds
  | slice inner ih =>
      refine Ty.IsTerm.meets_of_kind (.slice inner) rfl rfl linear overlap ?_
      rintro _ ⟨term', once'⟩ kinds _ overlap
      cases term' with
      | slice inner' =>
          obtain ⟨left, right, plain⟩ := ih once ⟨inner', once'⟩ (Ty.overlaps_slice ▸ overlap)
          exact ⟨left, right, congrArg Ty.slice plain⟩
      | _ => cases kinds
  | tuple terms ih =>
      refine Ty.IsTerm.meets_of_kind (.tuple terms) rfl rfl linear overlap ?_
      rintro _ ⟨term', once'⟩ kinds _ overlap
      cases term' with
      | tuple terms' =>
          obtain ⟨lengths, all⟩ := Ty.overlaps_tuple.mp overlap
          rw [Ty.occurrences_tuple] at once once'
          obtain ⟨left, right, plain⟩ := Ty.exists_instances_of_overlaps terms terms' once once'
            lengths (fun _ _ _ => Ty.each_of_allOverlap all)
            (fun type member other => ih type member)
          refine ⟨left, right, ?_⟩
          rw [Ty.instantiate_tuple, Ty.instantiate_tuple, Ty.plain, Ty.plain, Ty.plainAll_eq_map,
            Ty.plainAll_eq_map, plain]
      | _ => cases kinds

/-- On linear terms the comparison is exact. -/
theorem Ty.overlaps_iff_meets {a b : Ty} (linear : a.IsLinear params)
    (linear' : b.IsLinear params) : a.overlaps params b = true ↔ a.Meets params b := by
  refine ⟨linear.term.meets linear.once linear', ?_⟩
  rintro ⟨left, right, plain⟩
  exact Ty.overlaps_of_same linear.term.isSimple linear'.term.isSimple (Ty.same_of_plain _ _ plain)

end SlotSum
