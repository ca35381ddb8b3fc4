import SlotSum.Proofs.Payload.Tolerance

/-!
The plain form of a type: the same type without groups, parentheses and lifetimes, and with its
lists punctuated in one way. Types with one plain form are the same type, up to how they are written;
this is as strict as a comparison of instances can be, where counting as one is as lenient.
-/

namespace SlotSum

mutual

/-- The type without groups, parentheses and lifetimes. No list in it ends in a comma, and no double
colon stands before its arguments. What has no types as parts stays as it is written. -/
def Ty.plain : Ty → Ty
  | .group inner => inner.plain
  | .paren inner => inner.plain
  | .path rooted segments => .path rooted (Segment.plainAll segments)
  | .projection subject qualified rooted owner rest =>
    .projection subject.plain qualified rooted (Segment.plainAll owner) (Segment.plainAll rest)
  | .reference _ mutable inner => .reference none mutable inner.plain
  | .slice inner => .slice inner.plain
  | .array inner length => .array inner.plain length
  | .tuple elements _ => .tuple (Ty.plainAll elements) false
  | .never => .never
  | .composite form parts => .composite form parts

def Ty.plainAll : List Ty → List Ty
  | [] => []
  | first :: rest => first.plain :: Ty.plainAll rest

def Segment.plain : Segment → Segment
  | .mk name arguments => .mk name arguments.plain

def Segment.plainAll : List Segment → List Segment
  | [] => []
  | first :: rest => first.plain :: Segment.plainAll rest

def Arguments.plain : Arguments → Arguments
  | .none => .none
  | .angle _ arguments _ => .angle false (Argument.plainAll arguments) false
  | .round parts => .round parts

def Argument.plain : Argument → Argument
  | .lifetime _ => .lifetime ""
  | .type type => .type type.plain
  | .const parts => .const parts
  | .binding parts => .binding parts

def Argument.plainAll : List Argument → List Argument
  | [] => []
  | first :: rest => first.plain :: Argument.plainAll rest

end

theorem Ty.plainAll_eq_map (elements : List Ty) : Ty.plainAll elements = elements.map Ty.plain := by
  induction elements with
  | nil => rfl
  | cons first rest ih => simp [Ty.plainAll, ih]

theorem Segment.plainAll_eq_map (segments : List Segment) :
    Segment.plainAll segments = segments.map Segment.plain := by
  induction segments with
  | nil => rfl
  | cons first rest ih => simp [Segment.plainAll, ih]

theorem Argument.plainAll_eq_map (arguments : List Argument) :
    Argument.plainAll arguments = arguments.map Argument.plain := by
  induction arguments with
  | nil => rfl
  | cons first rest ih => simp [Argument.plainAll, ih]

@[simp] theorem Segment.name_plain (segment : Segment) : segment.plain.name = segment.name := by
  cases segment
  rfl

theorem Ty.plain_bare (type : Ty) : type.bare.plain = type.plain := by
  fun_induction Ty.bare type with
  | case1 inner ih => exact ih
  | case2 inner ih => exact ih
  | case3 type => rfl

theorem Ty.kind_plain (type : Ty) : type.plain.kind = type.bare.kind := by
  fun_induction Ty.bare type with
  | case1 inner ih => exact ih
  | case2 inner ih => exact ih
  | case3 type noGroup noParen =>
      cases type with
      | group inner => exact absurd rfl (noGroup inner)
      | paren inner => exact absurd rfl (noParen inner)
      | _ => rfl

/-! ### One plain form is one type -/

theorem getElem?_of_map_eq {change : α → β} {left right : List α}
    (same : left.map change = right.map change) {place : Nat} {first second : α}
    (here : left[place]? = some first) (there : right[place]? = some second) :
    change first = change second := by
  have changed := congrArg (fun list => list[place]?) same
  simpa [List.getElem?_map, here, there] using changed

/-- Paths with the same plain segments have them in the same places. -/
theorem Segment.plain_of_place {segments segments' : List Segment}
    (same : segments.map Segment.plain = segments'.map Segment.plain) {place : Nat}
    {first second : Segment}
    (here : (segments.dropWhile Ty.isLeading).reverse[place]? = some first)
    (there : (segments'.dropWhile Ty.isLeading).reverse[place]? = some second) :
    first.plain = second.plain := by
  have words : Ty.isLeading ∘ Segment.plain = Ty.isLeading := by
    funext segment
    simp [Ty.isLeading]
  have dropped := congrArg (List.dropWhile Ty.isLeading) same
  rw [List.dropWhile_map, List.dropWhile_map, words] at dropped
  have reversed := congrArg List.reverse dropped
  rw [← List.map_reverse, ← List.map_reverse] at reversed
  exact getElem?_of_map_eq reversed here there

/-- It is enough to look at types of one kind, without groups and parentheses. -/
theorem Ty.same_of_kind {a b : Ty} (outside : a.bare = a) (plain : a.plain = b.plain)
    (each : ∀ other : Ty, b.bare = other → other.kind = a.kind → a.plain = other.plain →
      Ty.Same a b) : Ty.Same a b := by
  refine each b.bare rfl ?_ (plain.trans (Ty.plain_bare b).symm)
  rw [← Ty.kind_plain b, ← plain, Ty.kind_plain, outside]

-- by recursion on the first type; the second has the same kind
mutual

/-- Types with one plain form count as one. -/
theorem Ty.same_of_plain : (a b : Ty) → a.plain = b.plain → Ty.Same a b
  | .group inner, b, plain => (Ty.same_of_plain inner b plain).of_bare rfl rfl
  | .paren inner, b, plain => (Ty.same_of_plain inner b plain).of_bare rfl rfl
  | .path rooted segments, b, plain => by
      refine Ty.same_of_kind rfl plain fun other bare kinds plain => ?_
      cases other with
      | path =>
          simp only [Ty.plain, Segment.plainAll_eq_map, Ty.path.injEq] at plain
          refine .path rfl bare fun place first second here there => ?_
          exact Segment.sameAll_of_plain segments first (Ty.mem_of_place here) second
            (Segment.plain_of_place plain.2 here there)
      | projection => cases plain
      | _ => cases kinds
  | .projection .., b, plain => by
      refine Ty.same_of_kind rfl plain fun other bare kinds plain => ?_
      cases other with
      | projection => exact .projection rfl bare
      | path => cases plain
      | _ => cases kinds
  | .reference _ _ inner, b, plain => by
      refine Ty.same_of_kind rfl plain fun other bare kinds plain => ?_
      cases other with
      | reference =>
          simp only [Ty.plain, Ty.reference.injEq, true_and] at plain
          obtain ⟨rfl, inners⟩ := plain
          exact .reference rfl bare (Ty.same_of_plain inner _ inners)
      | _ => cases kinds
  | .slice inner, b, plain => by
      refine Ty.same_of_kind rfl plain fun other bare kinds plain => ?_
      cases other with
      | slice => exact .slice rfl bare (Ty.same_of_plain inner _ (Ty.slice.inj plain))
      | _ => cases kinds
  | .array inner _, b, plain => by
      refine Ty.same_of_kind rfl plain fun other bare kinds plain => ?_
      cases other with
      | array =>
          obtain ⟨inners, rfl⟩ := Ty.array.inj plain
          exact .array rfl bare rfl (Ty.same_of_plain inner _ inners)
      | _ => cases kinds
  | .tuple elements _, b, plain => by
      refine Ty.same_of_kind rfl plain fun other bare kinds plain => ?_
      cases other with
      | tuple elements' =>
          simp only [Ty.plain, Ty.plainAll_eq_map, Ty.tuple.injEq, and_true] at plain
          refine .tuple rfl bare (by simpa using congrArg List.length plain) ?_
          intro place first second here there
          exact Ty.sameAll_of_plain elements first (List.mem_of_getElem? here) second
            (getElem?_of_map_eq plain here there)
      | _ => cases kinds
  | .never, b, plain => by
      refine Ty.same_of_kind rfl plain fun other bare kinds _ => ?_
      cases other with
      | never => exact .never rfl bare
      | _ => cases kinds
  | .composite .., b, plain => by
      refine Ty.same_of_kind rfl plain fun other bare kinds _ => ?_
      cases other with
      | composite =>
          cases kinds
          exact .composite rfl bare
      | _ => cases kinds

theorem Ty.sameAll_of_plain : (elements : List Ty) → ∀ a ∈ elements, ∀ b : Ty,
    a.plain = b.plain → Ty.Same a b
  | [] => by simp
  | first :: rest => by
      rw [List.forall_mem_cons]
      exact ⟨Ty.same_of_plain first, Ty.sameAll_of_plain rest⟩

theorem Segment.same_of_plain : (a b : Segment) → a.plain = b.plain → Segment.Same a b
  | .mk _ .none, .mk _ other, plain => by
      cases other with
      | none =>
          cases plain
          exact .bare
      | _ => cases plain
  | .mk _ (.angle _ arguments _), .mk _ other, plain => by
      cases other with
      | angle turbofish arguments' trailing =>
          simp only [Segment.plain, Arguments.plain, Argument.plainAll_eq_map, Segment.mk.injEq,
            Arguments.angle.injEq, true_and, and_true] at plain
          obtain ⟨rfl, plain⟩ := plain
          refine .angle (by simpa using congrArg List.length plain) ?_
          intro place first second here there
          exact Argument.sameAll_of_plain arguments first (List.mem_of_getElem? here) second
            (getElem?_of_map_eq plain here there)
      | _ => cases plain
  | .mk _ (.round _), .mk _ other, plain => by
      cases other with
      | round =>
          cases plain
          exact .round
      | _ => cases plain

theorem Segment.sameAll_of_plain : (segments : List Segment) → ∀ a ∈ segments, ∀ b : Segment,
    a.plain = b.plain → Segment.Same a b
  | [] => by simp
  | first :: rest => by
      rw [List.forall_mem_cons]
      exact ⟨Segment.same_of_plain first, Segment.sameAll_of_plain rest⟩

theorem Argument.same_of_plain : (a b : Argument) → a.plain = b.plain → Argument.Same a b
  | .lifetime _, b, plain => by
      cases b with
      | lifetime => exact .lifetime
      | _ => cases plain
  | .type type, b, plain => by
      cases b with
      | type other => exact .type (Ty.same_of_plain type other (Argument.type.inj plain))
      | _ => cases plain
  | .const _, b, plain => by
      cases b with
      | const => exact .const
      | _ => cases plain
  | .binding _, b, plain => by
      cases b with
      | binding => exact .binding
      | _ => cases plain

theorem Argument.sameAll_of_plain : (arguments : List Argument) → ∀ a ∈ arguments,
    ∀ b : Argument, a.plain = b.plain → Argument.Same a b
  | [] => by simp
  | first :: rest => by
      rw [List.forall_mem_cons]
      exact ⟨Argument.same_of_plain first, Argument.sameAll_of_plain rest⟩

end

end SlotSum
