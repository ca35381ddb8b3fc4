import SlotSum.Proofs.Payload.Renaming

/-!
The comparison of payload types misses nothing: two types overlap as soon as an instance of the one
and an instance of the other count as one. The instances are chosen independently of each other, and
they may be instances under other names, as long as these keep the names in the types apart.
-/

namespace SlotSum

variable {params known : List String} {left right : Instantiation}

/-! ### Kinds -/

theorem Ty.Same.kind {a b : Ty} (same : Ty.Same a b) : a.bare.kind = b.bare.kind := by
  cases same with
  | own left right => rw [left, right]; rfl
  | path left right => rw [left, right]; rfl
  | reference left right => rw [left, right]; rfl
  | slice left right => rw [left, right]; rfl
  | array left right => rw [left, right]; rfl
  | tuple left right => rw [left, right]; rfl
  | projection left right => rw [left, right]; rfl
  | never left right => rw [left, right]
  | composite left right => rw [left, right]; rfl

theorem Ty.kind_instantiate {type : Ty} (structural : type.isStructural params = true)
    (noParam : type.isParam params = false) :
    (type.instantiate params left).bare.kind = type.kind := by
  cases type with
  | group inner => simp [Ty.isStructural] at structural
  | paren inner => simp [Ty.isStructural] at structural
  | path rooted segments =>
      have noProjection : Ty.isProjection params segments = false := by
        simpa [Ty.isStructural] using structural
      rw [Ty.instantiate_path noParam noProjection]
      rfl
  | projection => simp [Ty.isStructural] at structural
  | reference => rfl
  | slice => rfl
  | array => rfl
  | tuple => rfl
  | never => rfl
  | composite => rfl

theorem Ty.isTextual_of_isSimple {type : Ty} (simple : type.isSimple = true) :
    type.isTextual = false := by
  cases type with
  | composite form parts => simp [Ty.isSimple] at simple
  | _ => rfl

/-- The instance of a type under other names. -/
def Ty.instanceBy (names : Renaming params known) (chosen : Instantiation) (type : Ty) : Ty :=
  (type.rename names.change).instantiate (params.map names.change) chosen

theorem Ty.kind_instanceBy {names : Renaming params known} {type : Ty}
    (within : type.names ⊆ known) (structural : type.isStructural params = true)
    (noParam : type.isParam params = false) :
    (type.instanceBy names left).bare.kind = type.kind := by
  rw [Ty.instanceBy, Ty.kind_instantiate, Ty.kind_rename]
  · rwa [names.isStructural within]
  · rwa [names.isParam within]

/-- Two types that are told apart by their constructors have no instances that count as one. -/
theorem Ty.looselyOverlap_of_same {names : Renaming params known} {a b : Ty}
    (simple : a.isSimple = true) (within : a.names ⊆ known) (within' : b.names ⊆ known)
    (noParam : a.isParam params = false) (noParam' : b.isParam params = false)
    (same : Ty.Same (a.instanceBy names left) (b.instanceBy names right)) :
    Ty.looselyOverlap params a b = true := by
  have kinds := same.kind
  unfold Ty.looselyOverlap
  split
  · rename_i apart
    simp only [Bool.and_eq_true, decide_eq_true_eq] at apart
    obtain ⟨⟨structural, structural'⟩, differ⟩ := apart
    rw [Ty.kind_instanceBy within structural noParam,
      Ty.kind_instanceBy within' structural' noParam'] at kinds
    exact absurd kinds differ
  · simp [Ty.isTextual_of_isSimple simple]

/-! ### Paths -/

theorem Ty.opposite_succ (segments : List Segment) (count : Nat) :
    Ty.opposite segments (count + 1) = segments.reverse[count]? := by
  unfold Ty.opposite
  split
  · rename_i short
    simp only [List.getElem?_eq_none_iff.mpr
      (show segments.reverse.length ≤ count by simp; omega)]
  · rename_i long
    rw [List.head?_drop, List.getElem?_reverse (by omega)]
    congr 1
    omega

/-- Segments overlap if those in the same place, counted from the ends, do. -/
theorem Ty.segmentsOverlap_of_aligned {segments others : List Segment} {leading : Bool}
    (aligned : ∀ (place : Nat) (first second : Segment),
      (if leading then segments.dropWhile Ty.isLeading else segments).reverse[place]? = some first →
      others.reverse[place]? = some second → Ty.segmentOverlaps params first second = true) :
    Ty.segmentsOverlap params leading segments others = true := by
  induction segments generalizing leading with
  | nil => simp [Ty.segmentsOverlap]
  | cons first rest ih =>
      unfold Ty.segmentsOverlap
      by_cases passed : leading = true ∧ Ty.isLeading first = true
      · obtain ⟨rfl, word⟩ := passed
        simp only [word, Bool.and_self, if_true]
        refine ih fun place first second here there => aligned place first second ?_ there
        simpa [List.dropWhile_cons, word] using here
      · have kept : (if leading then (first :: rest).dropWhile Ty.isLeading else first :: rest) =
            first :: rest := by
          cases leading with
          | false => rfl
          | true =>
              have other : Ty.isLeading first = false := by simpa using passed
              simp [other]
        rw [kept] at aligned
        rw [if_neg (by simpa using passed), Bool.and_eq_true]
        constructor
        · rw [Ty.opposite_succ]
          cases found : others.reverse[rest.length]? with
          | none => rfl
          | some other => exact aligned rest.length first other (by simp) found
        · refine ih fun place first second here there => aligned place first second ?_ there
          have inside : place < rest.reverse.length := (List.getElem?_eq_some_iff.mp here).1
          rw [List.reverse_cons, List.getElem?_append_left inside]
          exact here

/-- Of segments that overlap, those in the same place, counted from the ends, do. -/
theorem Ty.aligned_of_segmentsOverlap {segments others : List Segment} {leading : Bool}
    (overlap : Ty.segmentsOverlap params leading segments others = true) {place : Nat}
    {first second : Segment}
    (here : (if leading then segments.dropWhile Ty.isLeading else segments).reverse[place]? =
      some first)
    (there : others.reverse[place]? = some second) :
    Ty.segmentOverlaps params first second = true := by
  induction segments generalizing leading with
  | nil => simp at here
  | cons head rest ih =>
      rw [Ty.segmentsOverlap] at overlap
      by_cases passed : leading = true ∧ Ty.isLeading head = true
      · obtain ⟨rfl, word⟩ := passed
        rw [word, Bool.and_self, if_pos rfl] at overlap
        exact ih overlap (by simpa [List.dropWhile_cons, word] using here)
      · have kept : (if leading then (head :: rest).dropWhile Ty.isLeading else head :: rest) =
            head :: rest := by
          cases leading with
          | false => rfl
          | true =>
              have other : Ty.isLeading head = false := by simpa using passed
              simp [other]
        rw [kept, List.reverse_cons] at here
        rw [if_neg (by simpa using passed), Bool.and_eq_true, Ty.opposite_succ] at overlap
        have inside := (List.getElem?_eq_some_iff.mp here).1
        rw [List.length_append, List.length_reverse, List.length_singleton] at inside
        rcases Nat.lt_succ_iff_lt_or_eq.mp inside with before | rfl
        · refine ih overlap.2 ?_
          rw [List.getElem?_append_left (by simpa using before)] at here
          exact here
        · have same : head = first := by simpa using here
          rw [there, same] at overlap
          exact overlap.1

theorem Ty.instance_path {names : Renaming params known} {rooted : Bool} {segments : List Segment}
    (within : Segment.namesAll segments ⊆ known)
    (noParam : (Ty.path rooted segments).isParam params = false)
    (noProjection : Ty.isProjection params segments = false) :
    (Ty.path rooted segments).instanceBy names left =
      .path rooted ((segments.map (Segment.rename names.change)).map
        (Segment.instantiate (params.map names.change) left)) := by
  have param : ((Ty.path rooted segments).rename names.change).isParam (params.map names.change) =
      (Ty.path rooted segments).isParam params := names.isParam within
  rw [Ty.rename, Segment.renameAll_eq_map] at param
  rw [Ty.instanceBy, Ty.rename, Segment.renameAll_eq_map,
    Ty.instantiate_path (param.trans noParam)
      ((names.isProjection (Segment.names_mem within)).trans noProjection)]

/-- An instance of the owner's own name is that name, and no other path turns into it. -/
theorem Ty.isOwnName_instantiate (rooted : Bool) (segments : List Segment) :
    Ty.isOwnName rooted (segments.map (Segment.instantiate params left)) =
      Ty.isOwnName rooted segments := by
  match segments with
  | [] => rfl
  | [.mk name .none] => rfl
  | [.mk name (.angle ..)] => rfl
  | [.mk name (.round ..)] => rfl
  | _ :: _ :: _ => simp [Ty.isOwnName]

theorem Ty.isLeading_instantiate (segment : Segment) :
    Ty.isLeading (segment.instantiate params left) = Ty.isLeading segment := by
  simp [Ty.isLeading]

theorem Ty.dropWhile_instantiate (segments : List Segment) :
    (segments.map (Segment.instantiate params left)).dropWhile Ty.isLeading =
      (segments.dropWhile Ty.isLeading).map (Segment.instantiate params left) := by
  have words : Ty.isLeading ∘ Segment.instantiate params left = Ty.isLeading :=
    funext Ty.isLeading_instantiate
  rw [List.dropWhile_map, words]

theorem Ty.place_instantiate {segments : List Segment} {place : Nat} {segment : Segment}
    (here : (segments.dropWhile Ty.isLeading).reverse[place]? = some segment) :
    ((segments.map (Segment.instantiate params left)).dropWhile Ty.isLeading).reverse[place]? =
      some (segment.instantiate params left) := by
  rw [Ty.dropWhile_instantiate, ← List.map_reverse, List.getElem?_map, here]
  rfl

/-! ### Array lengths -/

theorem Ty.lengthsOverlap_of_same {change : String → String} {length length' : List Node}
    (same : Node.treesAll (Node.instantiateAll params left (Node.renameAll change length)) =
      Node.treesAll (Node.instantiateAll params right (Node.renameAll change length'))) :
    Ty.lengthsOverlap length length' = true := by
  unfold Ty.lengthsOverlap
  split
  · have both := same
    simp only [Node.renameAll, Node.rename, Node.instantiateAll, Node.instantiate, Node.treesAll,
      Node.trees, Tree.seq] at both
    simpa using (by simpa using both : _ ∧ _).2
  · rfl

/-! ### The comparison, constructor by constructor -/

section

variable (names : Renaming params known) (left right : Instantiation)

/-- Whatever has an instance that counts as one with an instance of the type overlaps it. -/
def Ty.Caught (type : Ty) : Prop :=
  ∀ other : Ty, other.isSimple = true → other.names ⊆ known →
    Ty.Same (type.instanceBy names left) (other.instanceBy names right) →
      type.overlaps params other = true

def Segment.Caught (segment : Segment) : Prop :=
  ∀ other : Segment, other.isSimple = true → other.names ⊆ known →
    Segment.Same ((segment.rename names.change).instantiate (params.map names.change) left)
        ((other.rename names.change).instantiate (params.map names.change) right) →
      Ty.segmentOverlaps params segment other = true

def Argument.Caught (argument : Argument) : Prop :=
  ∀ other : Argument, other.isSimple = true → other.names ⊆ known →
    Argument.Same ((argument.rename names.change).instantiate (params.map names.change) left)
        ((other.rename names.change).instantiate (params.map names.change) right) →
      Ty.argumentOverlaps params argument other = true

end

theorem Ty.overlaps_bare (other : Ty) : (type : Ty) →
    type.overlaps params other.bare = type.overlaps params other
  | .group inner => by simpa [Ty.overlaps] using Ty.overlaps_bare other inner
  | .paren inner => by simpa [Ty.overlaps] using Ty.overlaps_bare other inner
  | .path .. => by simp only [Ty.overlaps, Ty.bare_bare]
  | .projection .. => by simp only [Ty.overlaps, Ty.bare_bare]
  | .reference .. => by simp only [Ty.overlaps, Ty.bare_bare]
  | .slice .. => by simp only [Ty.overlaps, Ty.bare_bare]
  | .array .. => by simp only [Ty.overlaps, Ty.bare_bare]
  | .tuple .. => by simp only [Ty.overlaps, Ty.bare_bare]
  | .never => by simp only [Ty.overlaps, Ty.bare_bare]
  | .composite .. => by simp only [Ty.overlaps, Ty.bare_bare]

theorem Ty.bare_overlaps (other : Ty) : (type : Ty) →
    type.bare.overlaps params other = type.overlaps params other
  | .group inner => by simpa [Ty.overlaps] using Ty.bare_overlaps other inner
  | .paren inner => by simpa [Ty.overlaps] using Ty.bare_overlaps other inner
  | .path .. => rfl
  | .projection .. => rfl
  | .reference .. => rfl
  | .slice .. => rfl
  | .array .. => rfl
  | .tuple .. => rfl
  | .never => rfl
  | .composite .. => rfl

theorem Ty.overlaps_of_isParam {other : Ty} (param : other.bare.isParam params = true) :
    (type : Ty) → type.overlaps params other = true
  | .group inner => by simpa [Ty.overlaps] using Ty.overlaps_of_isParam param inner
  | .paren inner => by simpa [Ty.overlaps] using Ty.overlaps_of_isParam param inner
  | .path .. => by simp [Ty.overlaps, param]
  | .projection .. => by simp [Ty.overlaps, param]
  | .reference .. => by simp [Ty.overlaps, param]
  | .slice .. => by simp [Ty.overlaps, param]
  | .array .. => by simp [Ty.overlaps, param]
  | .tuple .. => by simp [Ty.overlaps, param]
  | .never => by simp [Ty.overlaps, param]
  | .composite .. => by simp [Ty.overlaps, param]

theorem Ty.isSimple_bare : (type : Ty) → type.bare.isSimple = type.isSimple
  | .group inner => by simpa [Ty.isSimple] using Ty.isSimple_bare inner
  | .paren inner => by simpa [Ty.isSimple] using Ty.isSimple_bare inner
  | .path .. => rfl
  | .projection .. => rfl
  | .reference .. => rfl
  | .slice .. => rfl
  | .array .. => rfl
  | .tuple .. => rfl
  | .never => rfl
  | .composite .. => rfl

variable {names : Renaming params known}

/-- It is enough to compare with types that stand in no group and are no parameter. -/
theorem Ty.caught_of_bare {type : Ty}
    (each : ∀ other : Ty, other.bare = other → other.isSimple = true → other.names ⊆ known →
      other.isParam params = false →
      Ty.Same (type.instanceBy names left) (other.instanceBy names right) →
        type.overlaps params other = true) :
    type.Caught names left right := by
  intro other simple within same
  cases param : other.bare.isParam params with
  | true => exact Ty.overlaps_of_isParam param type
  | false =>
      rw [← Ty.overlaps_bare]
      refine each other.bare other.bare_bare ?_ ?_ param ?_
      · rw [Ty.isSimple_bare, simple]
      · rwa [Ty.names_bare]
      · refine same.of_bare rfl ?_
        rw [Ty.instanceBy, Ty.instanceBy, ← Ty.bare_rename, ← Ty.bare_instantiate]

theorem Ty.caught_group {inner : Ty} (caught : inner.Caught names left right) :
    (Ty.group inner).Caught names left right := by
  intro other simple within same
  rw [Ty.overlaps]
  exact caught other simple within (same.of_bare rfl rfl)

theorem Ty.caught_paren {inner : Ty} (caught : inner.Caught names left right) :
    (Ty.paren inner).Caught names left right := by
  intro other simple within same
  rw [Ty.overlaps]
  exact caught other simple within (same.of_bare rfl rfl)

theorem Ty.Same.of_slice {inner inner' : Ty} (same : Ty.Same (.slice inner) (.slice inner')) :
    Ty.Same inner inner' := by
  cases same with
  | slice left right same =>
      cases left
      cases right
      exact same
  | _ left => cases left

theorem Ty.Same.of_reference {lifetime lifetime' : Option String} {mutable mutable' : Bool}
    {inner inner' : Ty}
    (same : Ty.Same (.reference lifetime mutable inner) (.reference lifetime' mutable' inner')) :
    mutable = mutable' ∧ Ty.Same inner inner' := by
  cases same with
  | reference left right same =>
      cases left
      cases right
      exact ⟨rfl, same⟩
  | _ left => cases left

theorem Ty.Same.of_array {inner inner' : Ty} {length length' : List Node}
    (same : Ty.Same (.array inner length) (.array inner' length')) :
    Node.treesAll length = Node.treesAll length' ∧ Ty.Same inner inner' := by
  cases same with
  | array left right lengths same =>
      cases left
      cases right
      exact ⟨lengths, same⟩
  | _ left => cases left

theorem Ty.Same.of_tuple {elements elements' : List Ty} {trailing trailing' : Bool}
    (same : Ty.Same (.tuple elements trailing) (.tuple elements' trailing')) :
    elements.length = elements'.length ∧
      ∀ (place : Nat) (first second : Ty), elements[place]? = some first →
        elements'[place]? = some second → Ty.Same first second := by
  cases same with
  | tuple left right lengths each =>
      cases left
      cases right
      exact ⟨lengths, each⟩
  | _ left => cases left

/-- Paths that count as one, where neither is the owner's own name. -/
theorem Ty.Same.of_path {rooted rooted' : Bool} {segments segments' : List Segment}
    (same : Ty.Same (.path rooted segments) (.path rooted' segments'))
    (notOwn : Ty.isOwnName rooted segments = false)
    (notOwn' : Ty.isOwnName rooted' segments' = false) :
    ∀ (place : Nat) (first second : Segment),
      (segments.dropWhile Ty.isLeading).reverse[place]? = some first →
      (segments'.dropWhile Ty.isLeading).reverse[place]? = some second →
      Segment.Same first second := by
  cases same with
  | own left right own =>
      cases left
      cases right
      simp [notOwn, notOwn'] at own
  | path left right aligned =>
      cases left
      cases right
      exact aligned
  | _ left => cases left

theorem Ty.caught_slice {inner : Ty} (simple : inner.isSimple = true)
    (within : inner.names ⊆ known) (caught : inner.Caught names left right) :
    (Ty.slice inner).Caught names left right := by
  refine Ty.caught_of_bare fun other bare otherSimple within' noParam same => ?_
  simp only [Ty.overlaps, bare, noParam, Bool.false_or]
  split
  · exact caught _ otherSimple within' same.of_slice
  · exact Ty.looselyOverlap_of_same simple within within' rfl noParam same

theorem Ty.caught_reference {lifetime : Option String} {mutable : Bool} {inner : Ty}
    (simple : inner.isSimple = true) (within : inner.names ⊆ known)
    (caught : inner.Caught names left right) :
    (Ty.reference lifetime mutable inner).Caught names left right := by
  refine Ty.caught_of_bare fun other bare otherSimple within' noParam same => ?_
  simp only [Ty.overlaps, bare, noParam, Bool.false_or]
  split
  · obtain ⟨alike, inners⟩ := same.of_reference
    rw [alike, beq_self_eq_true, Bool.true_and]
    exact caught _ otherSimple within' inners
  · exact Ty.looselyOverlap_of_same simple within within' rfl noParam same

theorem Ty.caught_array {inner : Ty} {length : List Node} (simple : inner.isSimple = true)
    (within : inner.names ⊆ known) (caught : inner.Caught names left right) :
    (Ty.array inner length).Caught names left right := by
  refine Ty.caught_of_bare fun other bare otherSimple within' noParam same => ?_
  simp only [Ty.overlaps, bare, noParam, Bool.false_or]
  split
  · obtain ⟨lengths, inners⟩ := same.of_array
    rw [Ty.lengthsOverlap_of_same lengths, Bool.true_and]
    exact caught _ otherSimple within' inners
  · exact Ty.looselyOverlap_of_same simple within within' rfl noParam same

theorem Ty.allOverlap_of_each {elements others : List Ty}
    (each : ∀ (place : Nat) (first second : Ty), elements[place]? = some first →
      others[place]? = some second → first.overlaps params second = true) :
    Ty.allOverlap params elements others = true := by
  induction elements generalizing others with
  | nil => simp [Ty.allOverlap]
  | cons first rest ih =>
      cases others with
      | nil => simp [Ty.allOverlap]
      | cons other more =>
          rw [Ty.allOverlap, Bool.and_eq_true]
          exact ⟨each 0 first other rfl rfl, ih fun place a b here there =>
            each (place + 1) a b here there⟩

theorem Ty.each_of_allOverlap {elements others : List Ty}
    (overlap : Ty.allOverlap params elements others = true) {place : Nat} {first second : Ty}
    (here : elements[place]? = some first) (there : others[place]? = some second) :
    first.overlaps params second = true := by
  induction elements generalizing others place with
  | nil => simp at here
  | cons head rest ih =>
      cases others with
      | nil => simp at there
      | cons other more =>
          rw [Ty.allOverlap, Bool.and_eq_true] at overlap
          cases place with
          | zero =>
              cases here
              cases there
              exact overlap.1
          | succ place => exact ih overlap.2 here there

theorem Ty.areSimple_iff (elements : List Ty) :
    Ty.areSimple elements = true ↔ ∀ type ∈ elements, type.isSimple = true := by
  induction elements with
  | nil => simp [Ty.areSimple]
  | cons first rest ih => simp [Ty.areSimple, ih]

theorem Segment.areSimple_iff (segments : List Segment) :
    Segment.areSimple segments = true ↔ ∀ segment ∈ segments, segment.isSimple = true := by
  induction segments with
  | nil => simp [Segment.areSimple]
  | cons first rest ih => simp [Segment.areSimple, ih]

theorem Argument.areSimple_iff (arguments : List Argument) :
    Argument.areSimple arguments = true ↔ ∀ argument ∈ arguments, argument.isSimple = true := by
  induction arguments with
  | nil => simp [Argument.areSimple]
  | cons first rest ih => simp [Argument.areSimple, ih]

theorem Ty.caught_tuple {elements : List Ty} {trailing : Bool}
    (simple : Ty.areSimple elements = true) (within : Ty.namesAll elements ⊆ known)
    (caught : ∀ type ∈ elements, type.Caught names left right) :
    (Ty.tuple elements trailing).Caught names left right := by
  refine Ty.caught_of_bare fun other bare otherSimple within' noParam same => ?_
  simp only [Ty.overlaps, bare, noParam, Bool.false_or]
  split
  · rename_i elements' trailing'
    obtain ⟨lengths, each⟩ := same.of_tuple
    simp only [Ty.renameAll_eq_map, Ty.instantiateAll_eq_map, List.length_map] at lengths each
    have othersSimple := (Ty.areSimple_iff elements').mp otherSimple
    have othersWithin := (Ty.namesAll_subset_iff elements').mp within'
    simp only [lengths, beq_self_eq_true, Bool.true_and]
    refine Ty.allOverlap_of_each fun place first second here there => ?_
    have member := List.mem_of_getElem? there
    refine caught first (List.mem_of_getElem? here) second (othersSimple second member)
      (othersWithin second member) (each place _ _ ?_ ?_)
    · rw [List.getElem?_map, List.getElem?_map, here]
      rfl
    · rw [List.getElem?_map, List.getElem?_map, there]
      rfl
  · exact Ty.looselyOverlap_of_same simple within within' rfl noParam same

/-- A path is compared segment by segment, and only with a path: all other forms are told apart by
their constructors. -/
theorem Ty.caught_path {rooted : Bool} {segments : List Segment}
    (simple : Segment.areSimple segments = true) (within : Segment.namesAll segments ⊆ known)
    (caught : ∀ segment ∈ segments, segment.Caught names left right) :
    (Ty.path rooted segments).Caught names left right := by
  refine Ty.caught_of_bare fun other bare otherSimple within' noParam same => ?_
  cases param : (Ty.path rooted segments).isParam params with
  | true => simp [Ty.overlaps, param]
  | false =>
      simp only [Ty.overlaps, bare, param, noParam, Bool.false_or]
      split
      · rename_i rooted' segments'
        rw [Bool.or_eq_true, Decidable.or_iff_not_imp_left]
        intro decided
        simp only [Bool.or_eq_true, not_or, Bool.not_eq_true] at decided
        obtain ⟨⟨⟨notOwn, notOwn'⟩, noProjection⟩, noProjection'⟩ := decided
        have here := Segment.names_mem within
        have there := Segment.names_mem within'
        rw [Ty.instance_path within param noProjection, Ty.instance_path within' noParam
          noProjection'] at same
        have aligned := same.of_path
          (by rw [Ty.isOwnName_instantiate, names.isOwnName here, notOwn])
          (by rw [Ty.isOwnName_instantiate, names.isOwnName there, notOwn'])
        refine Ty.segmentsOverlap_of_aligned fun place first second found found' => ?_
        have member : second ∈ segments' := Ty.mem_of_place found'
        exact caught first (Ty.mem_of_place found) second
          ((Segment.areSimple_iff segments').mp otherSimple second member)
          ((Segment.namesAll_subset_iff segments').mp within' second member)
          (aligned place _ _ (Ty.place_instantiate (names.place here found))
            (Ty.place_instantiate (names.place there found')))
      · exact Ty.looselyOverlap_of_same simple within within' param noParam same

theorem Ty.allArgumentsOverlap_of_each {arguments others : List Argument}
    (each : ∀ (place : Nat) (first second : Argument), arguments[place]? = some first →
      others[place]? = some second → Ty.argumentOverlaps params first second = true) :
    Ty.allArgumentsOverlap params arguments others = true := by
  induction arguments generalizing others with
  | nil => simp [Ty.allArgumentsOverlap]
  | cons first rest ih =>
      cases others with
      | nil => simp [Ty.allArgumentsOverlap]
      | cons other more =>
          rw [Ty.allArgumentsOverlap, Bool.and_eq_true]
          exact ⟨each 0 first other rfl rfl, ih fun place a b here there =>
            each (place + 1) a b here there⟩

theorem Ty.each_of_allArgumentsOverlap {arguments others : List Argument}
    (overlap : Ty.allArgumentsOverlap params arguments others = true) {place : Nat}
    {first second : Argument} (here : arguments[place]? = some first)
    (there : others[place]? = some second) :
    Ty.argumentOverlaps params first second = true := by
  induction arguments generalizing others place with
  | nil => simp at here
  | cons head rest ih =>
      cases others with
      | nil => simp at there
      | cons other more =>
          rw [Ty.allArgumentsOverlap, Bool.and_eq_true] at overlap
          cases place with
          | zero =>
              cases here
              cases there
              exact overlap.1
          | succ place => exact ih overlap.2 here there

theorem Argument.caught_lifetime (name : String) :
    (Argument.lifetime name).Caught names left right := by
  intro other simple _ same
  cases other with
  | lifetime name' => simp [Ty.argumentOverlaps]
  | _ => cases same

theorem Argument.caught_type {type : Ty} (caught : type.Caught names left right) :
    (Argument.type type).Caught names left right := by
  intro other simple within same
  cases other with
  | type other =>
      cases same with
      | type same => simpa [Ty.argumentOverlaps] using caught other simple within same
  | _ => cases same

theorem Segment.Same.of_none {name name' : String} {arguments : Arguments}
    (same : Segment.Same (.mk name .none) (.mk name' arguments)) :
    name = name' ∧ arguments = .none := by
  cases same
  exact ⟨rfl, rfl⟩

theorem Segment.caught_none {name : String} (here : name ∈ known) :
    (Segment.mk name .none).Caught names left right := by
  rintro ⟨name', arguments'⟩ simple within same
  obtain ⟨named, without⟩ := Segment.Same.of_none same
  obtain rfl := names.apart name here name' (within List.mem_cons_self) named
  cases arguments' with
  | none => simp [Ty.segmentOverlaps, Ty.argumentsOverlap, Segment.name, Segment.arguments]
  | _ => cases without

theorem Segment.Same.of_angle {name name' : String} {turbofish trailing : Bool}
    {arguments : List Argument} {others : Arguments}
    (same : Segment.Same (.mk name (.angle turbofish arguments trailing)) (.mk name' others)) :
    name = name' ∧ ∃ turbofish' arguments' trailing',
      others = .angle turbofish' arguments' trailing' ∧ arguments.length = arguments'.length ∧
        ∀ (place : Nat) (first second : Argument), arguments[place]? = some first →
          arguments'[place]? = some second → Argument.Same first second := by
  cases same with
  | angle lengths each => exact ⟨rfl, _, _, _, rfl, lengths, each⟩

theorem Segment.caught_angle {name : String} {turbofish trailing : Bool}
    {arguments : List Argument} (here : name ∈ known)
    (caught : ∀ argument ∈ arguments, argument.Caught names left right) :
    (Segment.mk name (.angle turbofish arguments trailing)).Caught names left right := by
  rintro ⟨name', arguments'⟩ simple within same
  obtain ⟨named, _, _, _, shape, lengths, each⟩ := Segment.Same.of_angle same
  obtain rfl := names.apart name here name' (within List.mem_cons_self) named
  cases arguments' with
  | angle turbofish' arguments' trailing' =>
      cases shape
      simp only [Argument.renameAll_eq_map, Argument.instantiateAll_eq_map, List.length_map]
        at lengths each
      have othersSimple := (Argument.areSimple_iff arguments').mp simple
      have othersWithin := (Argument.namesAll_subset_iff arguments').mp
        (List.subset_of_cons_subset within)
      simp only [Ty.segmentOverlaps, Ty.argumentsOverlap, Segment.name, Segment.arguments,
        beq_self_eq_true, lengths, Bool.true_and]
      refine Ty.allArgumentsOverlap_of_each fun place first second found found' => ?_
      have member := List.mem_of_getElem? found'
      refine caught first (List.mem_of_getElem? found) second (othersSimple second member)
        (othersWithin second member) (each place _ _ ?_ ?_)
      · rw [List.getElem?_map, List.getElem?_map, found]
        rfl
      · rw [List.getElem?_map, List.getElem?_map, found']
        rfl
  | _ => cases shape

/-! ### The comparison -/

mutual

/-- No simple type is told apart from one with an instance that counts as one with an instance of
its own. -/
theorem Ty.caught : (type : Ty) → type.isSimple = true → type.names ⊆ known →
    type.Caught names left right
  | .group inner, simple, within => Ty.caught_group (Ty.caught inner simple within)
  | .paren inner, simple, within => Ty.caught_paren (Ty.caught inner simple within)
  | .path _ segments, simple, within =>
    Ty.caught_path simple within (Segment.caughtAll segments simple within)
  | .reference _ _ inner, simple, within =>
    Ty.caught_reference simple within (Ty.caught inner simple within)
  | .slice inner, simple, within => Ty.caught_slice simple within (Ty.caught inner simple within)
  | .array inner _, simple, within => Ty.caught_array simple within (Ty.caught inner simple within)
  | .tuple elements _, simple, within =>
    Ty.caught_tuple simple within (Ty.caughtAll elements simple within)
  | .projection .., simple, _ | .never, simple, _ | .composite .., simple, _ => nomatch simple

theorem Ty.caughtAll : (elements : List Ty) → Ty.areSimple elements = true →
    Ty.namesAll elements ⊆ known → ∀ type ∈ elements, type.Caught names left right
  | [], _, _ => by simp
  | first :: rest, simple, within => by
      obtain ⟨firstSimple, restSimple⟩ := Bool.and_eq_true_iff.mp simple
      obtain ⟨firstWithin, restWithin⟩ := List.append_subset.mp within
      rw [List.forall_mem_cons]
      exact ⟨Ty.caught first firstSimple firstWithin, Ty.caughtAll rest restSimple restWithin⟩

theorem Segment.caught : (segment : Segment) → segment.isSimple = true → segment.names ⊆ known →
    segment.Caught names left right
  | .mk _ .none, _, within => Segment.caught_none (within List.mem_cons_self)
  | .mk _ (.angle _ arguments _), simple, within =>
    Segment.caught_angle (within List.mem_cons_self)
      (Argument.caughtAll arguments simple (List.subset_of_cons_subset within))
  | .mk _ (.round _), simple, _ => nomatch simple

theorem Segment.caughtAll : (segments : List Segment) → Segment.areSimple segments = true →
    Segment.namesAll segments ⊆ known → ∀ segment ∈ segments, segment.Caught names left right
  | [], _, _ => by simp
  | first :: rest, simple, within => by
      obtain ⟨firstSimple, restSimple⟩ := Bool.and_eq_true_iff.mp simple
      obtain ⟨firstWithin, restWithin⟩ := List.append_subset.mp within
      rw [List.forall_mem_cons]
      exact ⟨Segment.caught first firstSimple firstWithin,
        Segment.caughtAll rest restSimple restWithin⟩

theorem Argument.caught : (argument : Argument) → argument.isSimple = true →
    argument.names ⊆ known → argument.Caught names left right
  | .lifetime name, _, _ => Argument.caught_lifetime name
  | .type type, simple, within => Argument.caught_type (Ty.caught type simple within)
  | .const _, simple, _ | .binding _, simple, _ => nomatch simple

theorem Argument.caughtAll : (arguments : List Argument) → Argument.areSimple arguments = true →
    Argument.namesAll arguments ⊆ known → ∀ argument ∈ arguments, argument.Caught names left right
  | [], _, _ => by simp
  | first :: rest, simple, within => by
      obtain ⟨firstSimple, restSimple⟩ := Bool.and_eq_true_iff.mp simple
      obtain ⟨firstWithin, restWithin⟩ := List.append_subset.mp within
      rw [List.forall_mem_cons]
      exact ⟨Argument.caught first firstSimple firstWithin,
        Argument.caughtAll rest restSimple restWithin⟩

end

/-- Simple types with instances that count as one overlap. -/
theorem Ty.overlaps_of_same {a b : Ty} (simple : a.isSimple = true) (simple' : b.isSimple = true)
    (same : Ty.Same (a.instantiate params left) (b.instantiate params right)) :
    a.overlaps params b = true := by
  have known := List.subset_append_right (pathWords ++ params) (a.names ++ b.names)
  have caught : a.Caught (Renaming.identity params (a.names ++ b.names)) left right :=
    Ty.caught a simple (List.Subset.trans (List.subset_append_left ..) known)
  refine caught b simple' (List.Subset.trans (List.subset_append_right ..) known) ?_
  simpa [Ty.instanceBy, Renaming.identity, Ty.rename_id] using same

theorem Ty.overlaps_of_anyOverlap {types : List Ty}
    (apart : Ty.anyOverlap params types = false) :
    types.Pairwise fun first second => first.overlaps params second = false := by
  induction types with
  | nil => exact .nil
  | cons first rest ih =>
      simp only [Ty.anyOverlap, Bool.or_eq_false_iff, List.any_eq_false,
        Bool.not_eq_true] at apart
      exact .cons apart.1 (ih apart.2)

end SlotSum
