import SlotSum.Payload.Overlap

/-!
Instances of payload types, and when two types count as one.

An instantiation chooses a type for every parameter of the owner. What a projection out of a
parameter stands for is decided by traits that are not looked at, so a projection is chosen by
itself and may be any type.
-/

namespace SlotSum

structure Instantiation where
  param : String → Ty
  projection : Ty → Ty

namespace Ty

/-- The parameter that a type is. -/
def param? (params : List String) : Ty → Option String
  | path false [.mk name .none] => if params.contains name then some name else none
  | _ => none

theorem isParam_eq_isSome (params : List String) (type : Ty) :
    type.isParam params = (type.param? params).isSome := by
  by_cases bare : ∃ name, type = path false [.mk name .none]
  · obtain ⟨name, rfl⟩ := bare
    by_cases known : name ∈ params <;> simp [isParam, param?, known]
  · have other (name : String) (same : type = path false [.mk name .none]) : False :=
      bare ⟨name, same⟩
    rw [isParam.eq_2 params type other, param?.eq_2 params type other]
    rfl

end Ty

mutual

/-- The type with every parameter and projection replaced by what is chosen for it. -/
def Ty.instantiate (params : List String) (chosen : Instantiation) : Ty → Ty
  | .group inner => .group (inner.instantiate params chosen)
  | .paren inner => .paren (inner.instantiate params chosen)
  | .path rooted segments =>
    match (Ty.path rooted segments).param? params with
    | some name => chosen.param name
    | none =>
      if Ty.isProjection params segments then chosen.projection (.path rooted segments)
      else .path rooted (Segment.instantiateAll params chosen segments)
  | .projection subject qualified rooted owner rest =>
    chosen.projection (.projection subject qualified rooted owner rest)
  | .reference lifetime mutable inner =>
    .reference lifetime mutable (inner.instantiate params chosen)
  | .slice inner => .slice (inner.instantiate params chosen)
  | .array inner length =>
    .array (inner.instantiate params chosen) (Node.instantiateAll params chosen length)
  | .tuple elements trailing => .tuple (Ty.instantiateAll params chosen elements) trailing
  | .never => .never
  | .composite form parts => .composite form (Node.instantiateAll params chosen parts)

def Ty.instantiateAll (params : List String) (chosen : Instantiation) : List Ty → List Ty
  | [] => []
  | first :: rest => first.instantiate params chosen :: Ty.instantiateAll params chosen rest

def Segment.instantiate (params : List String) (chosen : Instantiation) : Segment → Segment
  | .mk name arguments => .mk name (arguments.instantiate params chosen)

def Segment.instantiateAll (params : List String) (chosen : Instantiation) :
    List Segment → List Segment
  | [] => []
  | first :: rest =>
    first.instantiate params chosen :: Segment.instantiateAll params chosen rest

def Arguments.instantiate (params : List String) (chosen : Instantiation) :
    Arguments → Arguments
  | .none => .none
  | .angle turbofish arguments trailing =>
    .angle turbofish (Argument.instantiateAll params chosen arguments) trailing
  | .round parts => .round (Node.instantiateAll params chosen parts)

def Argument.instantiate (params : List String) (chosen : Instantiation) : Argument → Argument
  | .lifetime name => .lifetime name
  | .type type => .type (type.instantiate params chosen)
  | .const parts => .const (Node.instantiateAll params chosen parts)
  | .binding parts => .binding (Node.instantiateAll params chosen parts)

def Argument.instantiateAll (params : List String) (chosen : Instantiation) :
    List Argument → List Argument
  | [] => []
  | first :: rest =>
    first.instantiate params chosen :: Argument.instantiateAll params chosen rest

def Node.instantiate (params : List String) (chosen : Instantiation) : Node → Node
  | .word text => .word text
  | .raw trees => .raw trees
  | .group delimiter parts => .group delimiter (Node.instantiateAll params chosen parts)
  | .type type => .type (type.instantiate params chosen)
  | .implied type => .implied (type.instantiate params chosen)
  | .arguments arguments => .arguments (arguments.instantiate params chosen)
  | .literal attributes negative text =>
    .literal (Node.instantiateAll params chosen attributes) negative text
  | .attribute head value => .attribute head (Node.instantiateAll params chosen value)
  | .declared declared attributes parts =>
    .declared declared (Node.instantiateAll params chosen attributes)
      (Node.instantiateAll params chosen parts)

def Node.instantiateAll (params : List String) (chosen : Instantiation) : List Node → List Node
  | [] => []
  | first :: rest => first.instantiate params chosen :: Node.instantiateAll params chosen rest

end

section

variable {params : List String} {chosen : Instantiation}

theorem Ty.instantiateAll_eq_map (elements : List Ty) :
    Ty.instantiateAll params chosen elements = elements.map (Ty.instantiate params chosen) := by
  induction elements with
  | nil => rfl
  | cons first rest ih => simp [Ty.instantiateAll, ih]

theorem Segment.instantiateAll_eq_map (segments : List Segment) :
    Segment.instantiateAll params chosen segments =
      segments.map (Segment.instantiate params chosen) := by
  induction segments with
  | nil => rfl
  | cons first rest ih => simp [Segment.instantiateAll, ih]

theorem Argument.instantiateAll_eq_map (arguments : List Argument) :
    Argument.instantiateAll params chosen arguments =
      arguments.map (Argument.instantiate params chosen) := by
  induction arguments with
  | nil => rfl
  | cons first rest ih => simp [Argument.instantiateAll, ih]

@[simp] theorem Segment.name_instantiate (segment : Segment) :
    (segment.instantiate params chosen).name = segment.name := by
  cases segment
  rfl

theorem Ty.instantiate_path {rooted : Bool} {segments : List Segment}
    (noParam : (Ty.path rooted segments).isParam params = false)
    (noProjection : Ty.isProjection params segments = false) :
    (Ty.path rooted segments).instantiate params chosen =
      .path rooted (segments.map (Segment.instantiate params chosen)) := by
  have none : (Ty.path rooted segments).param? params = none := by
    simpa [Ty.isParam_eq_isSome] using noParam
  simp [Ty.instantiate, none, noProjection, Segment.instantiateAll_eq_map]

theorem Ty.bare_instantiate : (type : Ty) →
    (type.instantiate params chosen).bare = (type.bare.instantiate params chosen).bare
  | .group inner => by simpa [Ty.instantiate] using Ty.bare_instantiate inner
  | .paren inner => by simpa [Ty.instantiate] using Ty.bare_instantiate inner
  | .path .. => rfl
  | .projection .. => rfl
  | .reference .. => rfl
  | .slice .. => rfl
  | .array .. => rfl
  | .tuple .. => rfl
  | .never => rfl
  | .composite .. => rfl

end

/-! ### Types that count as one -/

mutual

/-- Two types count as one whatever groups, parentheses and lifetimes they are written with, and
by whatever path they are reached: segments are compared where their ends are lined up, behind the
words that lead a path. The name of the owner's own type may stand for any path. Of the forms that
have no parts here only the form is compared, which counts more types as one than there are. -/
inductive Ty.Same : Ty → Ty → Prop
  | own (left : a.bare = .path rooted segments) (right : b.bare = .path rooted' segments')
      (own : Ty.isOwnName rooted segments = true ∨ Ty.isOwnName rooted' segments' = true) :
      Ty.Same a b
  | path (left : a.bare = .path rooted segments) (right : b.bare = .path rooted' segments')
      (aligned : ∀ (place : Nat) (first second : Segment),
        (segments.dropWhile Ty.isLeading).reverse[place]? = some first →
        (segments'.dropWhile Ty.isLeading).reverse[place]? = some second →
        Segment.Same first second) :
      Ty.Same a b
  | reference (left : a.bare = .reference lifetime mutable target)
      (right : b.bare = .reference lifetime' mutable target') (same : Ty.Same target target') :
      Ty.Same a b
  | slice (left : a.bare = .slice element) (right : b.bare = .slice element')
      (same : Ty.Same element element') : Ty.Same a b
  | array (left : a.bare = .array element length) (right : b.bare = .array element' length')
      (lengths : Node.treesAll length = Node.treesAll length') (same : Ty.Same element element') :
      Ty.Same a b
  | tuple (left : a.bare = .tuple elements trailing) (right : b.bare = .tuple elements' trailing')
      (lengths : elements.length = elements'.length)
      (each : ∀ (place : Nat) (first second : Ty), elements[place]? = some first →
        elements'[place]? = some second → Ty.Same first second) :
      Ty.Same a b
  | projection (left : a.bare = .projection subject qualified rooted owner rest)
      (right : b.bare = .projection subject' qualified' rooted' owner' rest') : Ty.Same a b
  | never (left : a.bare = .never) (right : b.bare = .never) : Ty.Same a b
  | composite (left : a.bare = .composite form parts) (right : b.bare = .composite form parts') :
      Ty.Same a b

inductive Segment.Same : Segment → Segment → Prop
  | bare : Segment.Same (.mk name .none) (.mk name .none)
  | angle (lengths : arguments.length = arguments'.length)
      (each : ∀ (place : Nat) (first second : Argument), arguments[place]? = some first →
        arguments'[place]? = some second → Argument.Same first second) :
      Segment.Same (.mk name (.angle turbofish arguments trailing))
        (.mk name (.angle turbofish' arguments' trailing'))
  | round : Segment.Same (.mk name (.round parts)) (.mk name (.round parts'))

inductive Argument.Same : Argument → Argument → Prop
  | lifetime : Argument.Same (.lifetime name) (.lifetime name')
  | type (same : Ty.Same first second) : Argument.Same (.type first) (.type second)
  | const : Argument.Same (.const parts) (.const parts')
  | binding : Argument.Same (.binding parts) (.binding parts')

end

mutual

theorem Ty.Same.symm {a b : Ty} : Ty.Same a b → Ty.Same b a
  | .own left right own => .own right left own.symm
  | .path left right aligned =>
    .path right left fun place first second here there =>
      (aligned place second first there here).symm
  | .reference left right same => .reference right left same.symm
  | .slice left right same => .slice right left same.symm
  | .array left right lengths same => .array right left lengths.symm same.symm
  | .tuple left right lengths each =>
    .tuple right left lengths.symm fun place first second here there =>
      (each place second first there here).symm
  | .projection left right => .projection right left
  | .never left right => .never right left
  | .composite left right => .composite right left

theorem Segment.Same.symm {a b : Segment} : Segment.Same a b → Segment.Same b a
  | .bare => .bare
  | .angle lengths each =>
    .angle lengths.symm fun place first second here there =>
      (each place second first there here).symm
  | .round => .round

theorem Argument.Same.symm {a b : Argument} : Argument.Same a b → Argument.Same b a
  | .lifetime => .lifetime
  | .type same => .type same.symm
  | .const => .const
  | .binding => .binding

end

theorem Ty.Same.of_bare {a a' b b' : Ty} (same : Ty.Same a b) (left : a'.bare = a.bare)
    (right : b'.bare = b.bare) : Ty.Same a' b' := by
  cases same with
  | own left' right' own => exact .own (left.trans left') (right.trans right') own
  | path left' right' aligned => exact .path (left.trans left') (right.trans right') aligned
  | reference left' right' same => exact .reference (left.trans left') (right.trans right') same
  | slice left' right' same => exact .slice (left.trans left') (right.trans right') same
  | array left' right' lengths same =>
      exact .array (left.trans left') (right.trans right') lengths same
  | tuple left' right' lengths each =>
      exact .tuple (left.trans left') (right.trans right') lengths each
  | projection left' right' => exact .projection (left.trans left') (right.trans right')
  | never left' right' => exact .never (left.trans left') (right.trans right')
  | composite left' right' => exact .composite (left.trans left') (right.trans right')

/-- A segment in some place of a path, counted from the end behind the words that lead it. -/
theorem Ty.mem_of_place {segments : List Segment} {place : Nat} {segment : Segment}
    (here : (segments.dropWhile Ty.isLeading).reverse[place]? = some segment) :
    segment ∈ segments :=
  (List.dropWhile_sublist _).mem (List.mem_reverse.mp (List.mem_of_getElem? here))

mutual

theorem Ty.Same.refl : (type : Ty) → Ty.Same type type
  | .group inner => (Ty.Same.refl inner).of_bare (Ty.bare_group inner) (Ty.bare_group inner)
  | .paren inner => (Ty.Same.refl inner).of_bare (Ty.bare_paren inner) (Ty.bare_paren inner)
  | .path _ segments => by
      refine .path rfl rfl fun place first second here there => ?_
      obtain rfl := Option.some.inj (here.symm.trans there)
      exact Segment.sameEach segments first (Ty.mem_of_place here)
  | .reference _ _ inner => .reference rfl rfl (Ty.Same.refl inner)
  | .slice inner => .slice rfl rfl (Ty.Same.refl inner)
  | .array inner _ => .array rfl rfl rfl (Ty.Same.refl inner)
  | .tuple elements _ => by
      refine .tuple rfl rfl rfl fun place first second here there => ?_
      obtain rfl := Option.some.inj (here.symm.trans there)
      exact Ty.sameEach elements first (List.mem_of_getElem? here)
  | .projection .. => .projection rfl rfl
  | .never => .never rfl rfl
  | .composite .. => .composite rfl rfl

theorem Ty.sameEach : (elements : List Ty) → ∀ type ∈ elements, Ty.Same type type
  | [] => by simp
  | first :: rest => by
      rw [List.forall_mem_cons]
      exact ⟨Ty.Same.refl first, Ty.sameEach rest⟩

theorem Segment.Same.refl : (segment : Segment) → Segment.Same segment segment
  | .mk _ .none => .bare
  | .mk _ (.angle _ arguments _) => by
      refine .angle rfl fun place first second here there => ?_
      obtain rfl := Option.some.inj (here.symm.trans there)
      exact Argument.sameEach arguments first (List.mem_of_getElem? here)
  | .mk _ (.round _) => .round

theorem Segment.sameEach : (segments : List Segment) →
    ∀ segment ∈ segments, Segment.Same segment segment
  | [] => by simp
  | first :: rest => by
      rw [List.forall_mem_cons]
      exact ⟨Segment.Same.refl first, Segment.sameEach rest⟩

theorem Argument.Same.refl : (argument : Argument) → Argument.Same argument argument
  | .lifetime _ => .lifetime
  | .type type => .type (Ty.Same.refl type)
  | .const _ => .const
  | .binding _ => .binding

theorem Argument.sameEach : (arguments : List Argument) →
    ∀ argument ∈ arguments, Argument.Same argument argument
  | [] => by simp
  | first :: rest => by
      rw [List.forall_mem_cons]
      exact ⟨Argument.Same.refl first, Argument.sameEach rest⟩

end

/-! ### Simple types -/

mutual

/-- A type that is built from paths without a qualified owner, references, slices, arrays and
tuples, in which only types and lifetimes stand as arguments. -/
def Ty.isSimple : Ty → Bool
  | .group inner => inner.isSimple
  | .paren inner => inner.isSimple
  | .path _ segments => Segment.areSimple segments
  | .reference _ _ inner => inner.isSimple
  | .slice inner => inner.isSimple
  | .array inner _ => inner.isSimple
  | .tuple elements _ => Ty.areSimple elements
  | .projection .. => false
  | .never => false
  | .composite .. => false

def Ty.areSimple : List Ty → Bool
  | [] => true
  | first :: rest => first.isSimple && Ty.areSimple rest

def Segment.isSimple : Segment → Bool
  | .mk _ arguments => arguments.isSimple

def Segment.areSimple : List Segment → Bool
  | [] => true
  | first :: rest => first.isSimple && Segment.areSimple rest

def Arguments.isSimple : Arguments → Bool
  | .none => true
  | .angle _ arguments _ => Argument.areSimple arguments
  | .round _ => false

def Argument.isSimple : Argument → Bool
  | .lifetime _ => true
  | .type type => type.isSimple
  | .const _ => false
  | .binding _ => false

def Argument.areSimple : List Argument → Bool
  | [] => true
  | first :: rest => first.isSimple && Argument.areSimple rest

end

end SlotSum
