import SlotSum.Proofs.Payload.Alike

/-!
Payload types under a choice for all parameters of the owner, those that are constants included.
Types that can become one by such choices are alike: they differ at most in what is not compared part
by part.
-/

namespace SlotSum

/-- A type for every parameter that stands for one, and a value for every constant expression, under
the values that the constant parameters have. -/
structure Closing extends Instantiation where
  value : List Node → List Node

mutual

/-- A type with the values of its constants in their place. The names of constant parameters among
the arguments of a path read as types. Of forms that are not compared part by part nothing but the
form counts, so they stay. -/
def Ty.assign (consts : List String) (value : List Node → List Node) : Ty → Ty
  | .group inner => .group (inner.assign consts value)
  | .paren inner => .paren (inner.assign consts value)
  | .path rooted segments => .path rooted (Segment.assignAll consts value segments)
  | .projection subject qualified rooted owner rest =>
    .projection (subject.assign consts value) qualified rooted
      (Segment.assignAll consts value owner) (Segment.assignAll consts value rest)
  | .reference lifetime mutable inner => .reference lifetime mutable (inner.assign consts value)
  | .slice inner => .slice (inner.assign consts value)
  | .array inner length => .array (inner.assign consts value) (value length)
  | .tuple elements trailing => .tuple (Ty.assignAll consts value elements) trailing
  | .never => .never
  | .composite form parts => .composite form parts

def Ty.assignAll (consts : List String) (value : List Node → List Node) : List Ty → List Ty
  | [] => []
  | first :: rest => first.assign consts value :: Ty.assignAll consts value rest

def Segment.assign (consts : List String) (value : List Node → List Node) : Segment → Segment
  | .mk name arguments => .mk name (arguments.assign consts value)

def Segment.assignAll (consts : List String) (value : List Node → List Node) :
    List Segment → List Segment
  | [] => []
  | first :: rest => first.assign consts value :: Segment.assignAll consts value rest

def Arguments.assign (consts : List String) (value : List Node → List Node) :
    Arguments → Arguments
  | .none => .none
  | .angle turbofish arguments trailing =>
    .angle turbofish (Argument.assignAll consts value arguments) trailing
  | .round parts => .round parts

def Argument.assign (consts : List String) (value : List Node → List Node) : Argument → Argument
  | .lifetime name => .lifetime name
  | .type inner =>
    match inner.param? consts with
    | some name => .const (value [.word name])
    | none => .type (inner.assign consts value)
  | .const parts => .const (value parts)
  | .binding parts => .binding parts

def Argument.assignAll (consts : List String) (value : List Node → List Node) :
    List Argument → List Argument
  | [] => []
  | first :: rest => first.assign consts value :: Argument.assignAll consts value rest

end

section

variable (params consts : List String) (chosen : Closing)

/-- A type in which everything that the owner leaves open is chosen. -/
def Ty.close (type : Ty) : Ty :=
  (type.assign consts chosen.value).instantiate params chosen.toInstantiation

def Segment.close (segment : Segment) : Segment :=
  (segment.assign consts chosen.value).instantiate params chosen.toInstantiation

def Argument.close (argument : Argument) : Argument :=
  (argument.assign consts chosen.value).instantiate params chosen.toInstantiation

end

variable {params consts : List String} {chosen left right : Closing}
  {value : List Node → List Node}

theorem Ty.assignAll_eq_map (elements : List Ty) :
    Ty.assignAll consts value elements = elements.map (Ty.assign consts value) := by
  induction elements with
  | nil => rfl
  | cons first rest ih => simp [Ty.assignAll, ih]

theorem Segment.assignAll_eq_map (segments : List Segment) :
    Segment.assignAll consts value segments = segments.map (Segment.assign consts value) := by
  induction segments with
  | nil => rfl
  | cons first rest ih => simp [Segment.assignAll, ih]

theorem Argument.assignAll_eq_map (arguments : List Argument) :
    Argument.assignAll consts value arguments =
      arguments.map (Argument.assign consts value) := by
  induction arguments with
  | nil => rfl
  | cons first rest ih => simp [Argument.assignAll, ih]

/-! ### Values do not change the shape of a path -/

@[simp] theorem Segment.name_assign (segment : Segment) :
    (segment.assign consts value).name = segment.name := by
  cases segment
  rfl

@[simp] theorem Segment.name_close (segment : Segment) :
    (segment.close params consts chosen).name = segment.name := by
  simp [Segment.close]

theorem Ty.isParam_assign (rooted : Bool) (segments : List Segment) :
    (Ty.path rooted (segments.map (Segment.assign consts value))).isParam params =
      (Ty.path rooted segments).isParam params := by
  match segments with
  | [] => rfl
  | [.mk name .none] => rfl
  | [.mk name (.angle ..)] => cases rooted <;> rfl
  | [.mk name (.round ..)] => cases rooted <;> rfl
  | _ :: _ :: _ => simp [Ty.isParam]

theorem Ty.isProjection_assign (segments : List Segment) :
    Ty.isProjection params (segments.map (Segment.assign consts value)) =
      Ty.isProjection params segments := by
  cases segments with
  | nil => rfl
  | cons first rest => simp [Ty.isProjection]

theorem Ty.isOwnName_assign (rooted : Bool) (segments : List Segment) :
    Ty.isOwnName rooted (segments.map (Segment.assign consts value)) =
      Ty.isOwnName rooted segments := by
  match segments with
  | [] => rfl
  | [.mk name .none] => rfl
  | [.mk name (.angle ..)] => rfl
  | [.mk name (.round ..)] => rfl
  | _ :: _ :: _ => simp [Ty.isOwnName]

theorem Ty.bare_assign : (type : Ty) →
    (type.assign consts value).bare = type.bare.assign consts value
  | .group inner => by simpa [Ty.assign] using Ty.bare_assign inner
  | .paren inner => by simpa [Ty.assign] using Ty.bare_assign inner
  | .path .. => rfl
  | .projection .. => rfl
  | .reference .. => rfl
  | .slice .. => rfl
  | .array .. => rfl
  | .tuple .. => rfl
  | .never => rfl
  | .composite .. => rfl

theorem Ty.bare_close (type : Ty) :
    (type.close params consts chosen).bare = (type.bare.close params consts chosen).bare := by
  rw [Ty.close, Ty.bare_instantiate, Ty.bare_assign]
  rfl

theorem Ty.close_path {rooted : Bool} {segments : List Segment}
    (closed : (Ty.path rooted segments).isOpen params = false) :
    (Ty.path rooted segments).close params consts chosen =
      .path rooted (segments.map (Segment.close params consts chosen)) := by
  obtain ⟨noParam, noProjection⟩ := Bool.or_eq_false_iff.mp closed
  rw [Ty.close, Ty.assign, Segment.assignAll_eq_map,
    Ty.instantiate_path (by rw [Ty.isParam_assign, noParam])
      (by rw [Ty.isProjection_assign, noProjection]), List.map_map]
  rfl

theorem Ty.isOwnName_close (rooted : Bool) (segments : List Segment) :
    Ty.isOwnName rooted (segments.map (Segment.close params consts chosen)) =
      Ty.isOwnName rooted segments := by
  have parts : segments.map (Segment.close params consts chosen) =
      (segments.map (Segment.assign consts chosen.value)).map
        (Segment.instantiate params chosen.toInstantiation) := by
    rw [List.map_map]
    rfl
  rw [parts, Ty.isOwnName_instantiate, Ty.isOwnName_assign]

theorem Ty.place_close {segments : List Segment} {place : Nat} {segment : Segment}
    (here : (segments.dropWhile Ty.isLeading).reverse[place]? = some segment) :
    ((segments.map (Segment.close params consts chosen)).dropWhile
        Ty.isLeading).reverse[place]? = some (segment.close params consts chosen) := by
  have words : Ty.isLeading ∘ Segment.close params consts chosen = Ty.isLeading := by
    funext segment
    simp [Ty.isLeading]
  rw [List.dropWhile_map, words, ← List.map_reverse, List.getElem?_map, here]
  rfl

theorem Ty.kind_close : (type : Ty) → type.bare.isOpen params = false →
    (type.close params consts chosen).bare.kind = type.bare.kind
  | .group inner, closed => by
      have inside := Ty.kind_close inner closed
      rwa [Ty.bare_close] at inside ⊢
  | .paren inner, closed => by
      have inside := Ty.kind_close inner closed
      rwa [Ty.bare_close] at inside ⊢
  | .path _ _, closed => by
      rw [Ty.close_path closed]
      rfl
  | .projection .., closed => by cases closed
  | .reference .., _ => rfl
  | .slice .., _ => rfl
  | .array .., _ => rfl
  | .tuple .., _ => rfl
  | .never, _ => rfl
  | .composite .., _ => rfl

/-! ### What becomes one is alike -/

/-- It is enough to look at types of the same kind, without groups and parentheses, that cannot be
any other type. -/
theorem Ty.alike_of_closed {a b : Ty} (closed : a.bare.isOpen params = false)
    (same : Ty.Same (a.close params consts left) (b.close params consts right))
    (each : ∀ other : Ty, b.bare = other → other.isOpen params = false →
      other.kind = a.bare.kind →
      Ty.Same (a.bare.close params consts left) (other.close params consts right) →
      Ty.Alike params consts .any a b) :
    Ty.Alike params consts .any a b := by
  cases free : b.bare.isOpen params with
  | true => exact .isOpen (.inr free)
  | false =>
      refine each b.bare rfl free ?_ ?_
      · rw [← Ty.kind_close a closed, ← Ty.kind_close b free]
        exact same.kind.symm
      · exact same.of_bare (Ty.bare_close a).symm (Ty.bare_close b).symm

theorem Ty.close_tuple {elements : List Ty} {trailing : Bool} :
    (Ty.tuple elements trailing).close params consts chosen =
      .tuple (elements.map (Ty.close params consts chosen)) trailing := by
  rw [Ty.close, Ty.assign, Ty.instantiate, Ty.assignAll_eq_map, Ty.instantiateAll_eq_map,
    List.map_map]
  rfl

theorem Segment.close_angle {name : String} {turbofish trailing : Bool}
    {arguments : List Argument} :
    (Segment.mk name (.angle turbofish arguments trailing)).close params consts chosen =
      .mk name (.angle turbofish (arguments.map (Argument.close params consts chosen))
        trailing) := by
  rw [Segment.close, Segment.assign, Arguments.assign, Segment.instantiate,
    Arguments.instantiate, Argument.assignAll_eq_map, Argument.instantiateAll_eq_map,
    List.map_map]
  rfl

theorem Argument.close_of_isConstant {argument : Argument}
    (constant : argument.isConstant consts = true) :
    ∃ parts, argument.close params consts chosen = .const parts := by
  cases argument with
  | type inner =>
      obtain ⟨name, named⟩ := Option.isSome_iff_exists.mp
        ((Ty.isParam_eq_isSome consts inner).symm.trans constant)
      simp [Argument.close, Argument.assign, named, Argument.instantiate]
  | const parts => exact ⟨_, rfl⟩
  | _ => cases constant

theorem Argument.close_type {inner : Ty} (noConstant : inner.isParam consts = false) :
    (Argument.type inner).close params consts chosen =
      .type (inner.close params consts chosen) := by
  have named : inner.param? consts = none := by
    simpa [Ty.isParam_eq_isSome] using noConstant
  simp [Argument.close, Argument.assign, named, Argument.instantiate, Ty.close]

theorem Argument.isConstant_of_close {first second : Argument}
    (same : Argument.Same (first.close params consts left) (second.close params consts right))
    (constant : first.isConstant consts = true) : second.isConstant consts = true := by
  obtain ⟨parts, const⟩ := Argument.close_of_isConstant constant
  rw [const] at same
  cases second with
  | type inner =>
      cases known : inner.isParam consts with
      | true => exact known
      | false =>
          rw [Argument.close_type known] at same
          cases same
  | const => rfl
  | _ => cases same

-- by recursion on the first type; the second has the same kind, unless one of them is open
mutual

/-- Types that become one are alike. -/
theorem Ty.alike_of_close : (a b : Ty) →
    Ty.Same (a.close params consts left) (b.close params consts right) →
    Ty.Alike params consts .any a b
  | .group inner, b, same =>
    (Ty.alike_of_close inner b (same.of_bare rfl rfl)).of_bare rfl rfl
  | .paren inner, b, same =>
    (Ty.alike_of_close inner b (same.of_bare rfl rfl)).of_bare rfl rfl
  | .path rooted segments, b, same => by
      cases closed : (Ty.path rooted segments).isOpen params with
      | true => exact .isOpen (.inl closed)
      | false =>
          refine Ty.alike_of_closed closed same fun other bare closed' kinds same => ?_
          cases other with
          | path rooted' segments' =>
              change Ty.Same ((Ty.path rooted segments).close params consts left) _ at same
              rw [Ty.close_path closed, Ty.close_path closed'] at same
              cases own : Ty.isOwnName rooted segments || Ty.isOwnName rooted' segments' with
              | true => exact .own rfl bare (Bool.or_eq_true_iff.mp own)
              | false =>
                  obtain ⟨notOwn, notOwn'⟩ := Bool.or_eq_false_iff.mp own
                  have aligned := same.of_path (by rw [Ty.isOwnName_close, notOwn])
                    (by rw [Ty.isOwnName_close, notOwn'])
                  refine .path rfl bare fun place first second here there => ?_
                  have within : first ∈ segments := Ty.mem_of_place here
                  exact Segment.alikeAll_of_close segments first within second
                    (aligned place _ _ (Ty.place_close here) (Ty.place_close there))
          | projection => cases closed'
          | _ => cases kinds
  | .projection .., b, same => .isOpen (.inl rfl)
  | .reference _ _ inner, b, same => by
      refine Ty.alike_of_closed rfl same fun other bare _ kinds same => ?_
      cases other with
      | reference =>
          obtain ⟨rfl, targets⟩ := Ty.Same.of_reference same
          exact .reference rfl bare (Ty.alike_of_close inner _ targets)
      | _ => cases kinds
  | .slice inner, b, same => by
      refine Ty.alike_of_closed rfl same fun other bare _ kinds same => ?_
      cases other with
      | slice => exact .slice rfl bare (Ty.alike_of_close inner _ (Ty.Same.of_slice same))
      | _ => cases kinds
  | .array inner _, b, same => by
      refine Ty.alike_of_closed rfl same fun other bare _ kinds same => ?_
      cases other with
      | array =>
          obtain ⟨-, elements⟩ := Ty.Same.of_array same
          exact .array rfl bare trivial (Ty.alike_of_close inner _ elements)
      | _ => cases kinds
  | .tuple elements trailing, b, same => by
      refine Ty.alike_of_closed rfl same fun other bare _ kinds same => ?_
      cases other with
      | tuple elements' =>
          change Ty.Same ((Ty.tuple elements trailing).close params consts left) _ at same
          rw [Ty.close_tuple, Ty.close_tuple] at same
          obtain ⟨lengths, each⟩ := Ty.Same.of_tuple same
          rw [List.length_map, List.length_map] at lengths
          refine .tuple rfl bare lengths fun place first second here there => ?_
          refine Ty.alikeAll_of_close elements first (List.mem_of_getElem? here) second ?_
          refine each place _ _ ?_ ?_
          · rw [List.getElem?_map, here, Option.map_some]
          · rw [List.getElem?_map, there, Option.map_some]
      | _ => cases kinds
  | .never, b, same => by
      refine Ty.alike_of_closed rfl same fun other bare closed' kinds _ => ?_
      cases other with
      | never => exact .never rfl bare
      | _ => cases kinds
  | .composite .., b, same => by
      refine Ty.alike_of_closed rfl same fun other bare closed' kinds _ => ?_
      cases other with
      | composite =>
          cases kinds
          exact .composite rfl bare fun _ => trivial
      | _ => cases kinds

theorem Ty.alikeAll_of_close : (elements : List Ty) → ∀ a ∈ elements, ∀ b : Ty,
    Ty.Same (a.close params consts left) (b.close params consts right) →
    Ty.Alike params consts .any a b
  | [] => by simp
  | first :: rest => by
      rw [List.forall_mem_cons]
      exact ⟨Ty.alike_of_close first, Ty.alikeAll_of_close rest⟩

theorem Segment.alike_of_close : (a b : Segment) →
    Segment.Same (a.close params consts left) (b.close params consts right) →
    Segment.Alike params consts .any a b
  | .mk name .none, .mk name' .none, same => by
      cases same
      exact .bare
  | .mk name (.angle _ arguments _), .mk name' (.angle _ arguments' _), same => by
      rw [Segment.close_angle, Segment.close_angle] at same
      cases same with
      | angle lengths each =>
          rw [List.length_map, List.length_map] at lengths
          refine .angle lengths fun place first second here there => ?_
          refine Argument.alikeAll_of_close arguments first (List.mem_of_getElem? here) second ?_
          refine each place _ _ ?_ ?_
          · rw [List.getElem?_map, here, Option.map_some]
          · rw [List.getElem?_map, there, Option.map_some]
  | .mk name (.round parts), .mk name' (.round parts'), same => by
      cases same
      exact .round trivial
  | .mk _ .none, .mk _ (.angle ..), same => by cases same
  | .mk _ .none, .mk _ (.round _), same => by cases same
  | .mk _ (.angle ..), .mk _ .none, same => by cases same
  | .mk _ (.angle ..), .mk _ (.round _), same => by cases same
  | .mk _ (.round _), .mk _ .none, same => by cases same
  | .mk _ (.round _), .mk _ (.angle ..), same => by cases same

theorem Segment.alikeAll_of_close : (segments : List Segment) → ∀ a ∈ segments, ∀ b : Segment,
    Segment.Same (a.close params consts left) (b.close params consts right) →
    Segment.Alike params consts .any a b
  | [] => by simp
  | first :: rest => by
      rw [List.forall_mem_cons]
      exact ⟨Segment.alike_of_close first, Segment.alikeAll_of_close rest⟩

theorem Argument.alike_of_close : (a b : Argument) →
    Argument.Same (a.close params consts left) (b.close params consts right) →
    Argument.Alike params consts .any a b
  | .lifetime _, b, same => by
      cases constant : b.isConstant consts with
      | true => cases Argument.isConstant_of_close same.symm constant
      | false =>
          cases b with
          | lifetime => exact .lifetime
          | type inner =>
              rw [Argument.close_type constant] at same
              cases same
          | _ => cases same
  | .type inner, b, same => by
      cases constant : b.isConstant consts with
      | true => exact .constant (Argument.isConstant_of_close same.symm constant) constant trivial
      | false =>
          cases constant' : inner.isParam consts with
          | true =>
              have other := Argument.isConstant_of_close same constant'
              simp [constant] at other
          | false =>
              rw [Argument.close_type constant'] at same
              cases b with
              | type inner' =>
                  rw [Argument.close_type constant] at same
                  cases same with
                  | type types => exact .type (Ty.alike_of_close inner inner' types)
              | _ => cases same
  | .const parts, b, same => .constant rfl (Argument.isConstant_of_close same rfl) trivial
  | .binding parts, b, same => by
      cases constant : b.isConstant consts with
      | true => cases Argument.isConstant_of_close same.symm constant
      | false =>
          cases b with
          | binding => exact .binding trivial
          | type inner =>
              rw [Argument.close_type constant] at same
              cases same
          | _ => cases same

theorem Argument.alikeAll_of_close : (arguments : List Argument) → ∀ a ∈ arguments,
    ∀ b : Argument, Argument.Same (a.close params consts left) (b.close params consts right) →
    Argument.Alike params consts .any a b
  | [] => by simp
  | first :: rest => by
      rw [List.forall_mem_cons]
      exact ⟨Argument.alike_of_close first, Argument.alikeAll_of_close rest⟩

end

end SlotSum
