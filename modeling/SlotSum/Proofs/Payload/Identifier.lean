import SlotSum.Proofs.Payload.Plain
import SlotSum.Schema.Slot

/-!
Identifiers. The mark of a raw name does not belong to the identifier that it spells, but payloads
are compared by the names as they are spelled. The comparison sees through no mark: types that
differ in nothing but marks overlap only if they are alike as they are spelled. Where every
identifier is spelled in one way, nothing is missed.
-/

namespace SlotSum

/-- The identifier that a name spells. -/
def identifier (name : String) : String := String.ofList (Slot.unmarked name.toList)

/-- Names that are one identifier, whether or not they are marked as raw. -/
def isSameIdentifier (name other : String) : Bool := identifier name == identifier other

theorem isSameIdentifier_of_eq {name other : String} (same : name = other) :
    isSameIdentifier name other = true := by
  rw [same, isSameIdentifier, beq_self_eq_true]

theorem isSameIdentifier_iff {name other : String} :
    isSameIdentifier name other = true ↔
      Slot.unmarked name.toList = Slot.unmarked other.toList := by
  rw [isSameIdentifier, beq_iff_eq, identifier, identifier, String.ofList_inj]

/-! ### Types without marks -/

/-- The type with identifiers for names. -/
def Ty.identified (type : Ty) : Ty := type.rename identifier

def Instantiation.identified (chosen : Instantiation) : Instantiation where
  param name := (chosen.param name).identified
  projection type := (chosen.projection type).identified

/-- Some choice for the parameters makes one type of two, whatever marks are in them. -/
def Ty.MayBeOne (params : List String) (a b : Ty) : Prop :=
  ∃ left right : Instantiation,
    Ty.Same (a.identified.instantiate (params.map identifier) left.identified)
      (b.identified.instantiate (params.map identifier) right.identified)

/-- The names by which two types are compared. -/
def Ty.spellings (params : List String) (a b : Ty) : List String :=
  pathWords ++ params ++ (a.names ++ b.names)

/-- No identifier is spelled in two ways. -/
def AreUniform (names : List String) : Prop := KeepsApart identifier names

instance (names : List String) : Decidable (AreUniform names) :=
  inferInstanceAs (Decidable (∀ name ∈ names, ∀ other ∈ names,
    identifier name = identifier other → name = other))

theorem identifier_pathWord : ∀ word ∈ pathWords, identifier word = word := by decide

/-- Names are changed into the identifiers that they spell. -/
def Renaming.identifiers {params names : List String}
    (uniform : AreUniform (pathWords ++ params ++ names)) :
    Renaming params (pathWords ++ params ++ names) where
  change := identifier
  apart := uniform
  params := Renaming.params_known params names
  words := Renaming.words_known params names
  same := identifier_pathWord

/-- Where every identifier is spelled in one way, simple types overlap as soon as some choice makes
one type of them. -/
theorem Ty.MayBeOne.overlaps {params : List String} {a b : Ty} (one : Ty.MayBeOne params a b)
    (simple : a.isSimple = true) (simple' : b.isSimple = true)
    (uniform : AreUniform (Ty.spellings params a b)) : a.overlaps params b = true := by
  obtain ⟨left, right, same⟩ := one
  have known := List.subset_append_right (pathWords ++ params) (a.names ++ b.names)
  have caught : a.Caught (Renaming.identifiers uniform) left.identified right.identified :=
    Ty.caught a simple (List.Subset.trans (List.subset_append_left ..) known)
  exact caught b simple' (List.Subset.trans (List.subset_append_right ..) known) same

theorem Ty.mayBeOne_of_identified {params : List String} {a b : Ty}
    (same : a.identified = b.identified) : Ty.MayBeOne params a b := by
  have chosen : Instantiation := ⟨fun _ => .never, id⟩
  refine ⟨chosen, chosen, ?_⟩
  rw [same]
  exact Ty.Same.refl _

theorem Ty.MayBeOne.symm {params : List String} {a b : Ty} :
    Ty.MayBeOne params a b → Ty.MayBeOne params b a
  | ⟨left, right, same⟩ => ⟨right, left, same.symm⟩

/-! ### Types that differ in their names only -/

section

variable {params consts : List String} {change : String → String}

/-- Paths whose names become the same have the same segments in line, wherever they begin. -/
theorem Segment.rename_of_place {segments segments' : List Segment}
    (same : Segment.renameAll change segments = Segment.renameAll change segments') {place : Nat}
    {first second : Segment}
    (here : (segments.dropWhile Ty.isLeading).reverse[place]? = some first)
    (there : (segments'.dropWhile Ty.isLeading).reverse[place]? = some second) :
    first.rename change = second.rename change := by
  have whole {segments : List Segment} {segment : Segment}
      (found : (segments.dropWhile Ty.isLeading).reverse[place]? = some segment) :
      (segments.map (Segment.rename change)).reverse[place]? = some (segment.rename change) := by
    obtain ⟨before, parts⟩ := List.dropWhile_suffix (l := segments) Ty.isLeading
    rw [← List.map_reverse, List.getElem?_map, ← parts, List.reverse_append,
      List.getElem?_append_left (List.getElem?_eq_some_iff.mp found).1, found]
    rfl
  rw [Segment.renameAll_eq_map, Segment.renameAll_eq_map] at same
  have first' := whole here
  rw [same, whole there] at first'
  exact (Option.some.inj first').symm

mutual

theorem Ty.alike_of_rename : (a b : Ty) → a.isSimple = true →
    a.rename change = b.rename change → a.overlaps params b = true →
      Ty.Alike params consts (.byText params) a b
  | .group inner, b, simple, same, overlap => by
      cases b with
      | group inner' =>
          rw [Ty.overlaps, ← Ty.overlaps_bare, Ty.bare_group, Ty.overlaps_bare] at overlap
          exact (Ty.alike_of_rename inner inner' simple (Ty.group.inj same) overlap).of_bare rfl rfl
      | _ => cases same
  | .paren inner, b, simple, same, overlap => by
      cases b with
      | paren inner' =>
          rw [Ty.overlaps, ← Ty.overlaps_bare, Ty.bare_paren, Ty.overlaps_bare] at overlap
          exact (Ty.alike_of_rename inner inner' simple (Ty.paren.inj same) overlap).of_bare rfl rfl
      | _ => cases same
  | .path _ segments, b, simple, same, overlap => by
      cases b with
      | path rooted' segments' =>
          rcases Ty.overlaps_path.mp overlap with free | own | aligned
          · exact .isOpen free
          · exact .own rfl rfl own
          · refine .path rfl rfl fun place first second here there => ?_
            exact Segment.alikeEach_of_rename segments simple first (Ty.mem_of_place here) second
              (Segment.rename_of_place (Ty.path.inj same).2 here there)
              (Ty.aligned_of_segmentsOverlap aligned here there)
      | _ => cases same
  | .reference _ _ inner, b, simple, same, overlap => by
      cases b with
      | reference lifetime' mutable' inner' =>
          obtain ⟨rfl, targets⟩ := Ty.overlaps_reference.mp overlap
          exact .reference rfl rfl
            (Ty.alike_of_rename inner inner' simple (Ty.reference.inj same).2.2 targets)
      | _ => cases same
  | .slice inner, b, simple, same, overlap => by
      cases b with
      | slice inner' =>
          rw [Ty.overlaps_slice] at overlap
          exact .slice rfl rfl (Ty.alike_of_rename inner inner' simple (Ty.slice.inj same) overlap)
      | _ => cases same
  | .array inner _, b, simple, same, overlap => by
      cases b with
      | array inner' length' =>
          obtain ⟨lengths, elements⟩ := Ty.overlaps_array.mp overlap
          exact .array rfl rfl lengths
            (Ty.alike_of_rename inner inner' simple (Ty.array.inj same).1 elements)
      | _ => cases same
  | .tuple elements _, b, simple, same, overlap => by
      cases b with
      | tuple elements' trailing' =>
          obtain ⟨lengths, all⟩ := Ty.overlaps_tuple.mp overlap
          have names := (Ty.tuple.inj same).1
          rw [Ty.renameAll_eq_map, Ty.renameAll_eq_map] at names
          refine .tuple rfl rfl lengths fun place first second here there => ?_
          exact Ty.alikeEach_of_rename elements simple first (List.mem_of_getElem? here) second
            (getElem?_of_map_eq names here there) (Ty.each_of_allOverlap all here there)
      | _ => cases same
  | .projection .., _, simple, _, _ | .never, _, simple, _, _ | .composite .., _, simple, _, _ =>
    nomatch simple

theorem Ty.alikeEach_of_rename : (elements : List Ty) → Ty.areSimple elements = true →
    ∀ a ∈ elements, ∀ b : Ty, a.rename change = b.rename change → a.overlaps params b = true →
      Ty.Alike params consts (.byText params) a b
  | [], _ => by simp
  | first :: rest, simple => by
      obtain ⟨firstSimple, restSimple⟩ := Bool.and_eq_true_iff.mp simple
      rw [List.forall_mem_cons]
      exact ⟨fun b => Ty.alike_of_rename first b firstSimple,
        Ty.alikeEach_of_rename rest restSimple⟩

theorem Segment.alike_of_rename : (a b : Segment) → a.isSimple = true →
    a.rename change = b.rename change → Ty.segmentOverlaps params a b = true →
      Segment.Alike params consts (.byText params) a b
  | .mk name .none, .mk name' arguments', _, same, overlap => by
      cases arguments' with
      | none =>
          obtain rfl : name = name' := by
            simpa [Ty.segmentOverlaps, Ty.argumentsOverlap, Segment.name, Segment.arguments]
              using overlap
          exact .bare
      | _ => cases (Segment.mk.inj same).2
  | .mk name (.angle _ arguments _), .mk name' arguments', simple, same, overlap => by
      cases arguments' with
      | angle turbofish' arguments' trailing' =>
          obtain ⟨rfl, lengths, all⟩ := Ty.segmentOverlaps_angle.mp overlap
          have names := (Arguments.angle.inj (Segment.mk.inj same).2).2.1
          rw [Argument.renameAll_eq_map, Argument.renameAll_eq_map] at names
          refine .angle lengths fun place first second here there => ?_
          exact Argument.alikeEach_of_rename arguments simple first (List.mem_of_getElem? here)
            second (getElem?_of_map_eq names here there)
            (Ty.each_of_allArgumentsOverlap all here there)
      | _ => cases (Segment.mk.inj same).2
  | .mk _ (.round _), _, simple, _, _ => nomatch simple

theorem Segment.alikeEach_of_rename : (segments : List Segment) →
    Segment.areSimple segments = true → ∀ a ∈ segments, ∀ b : Segment,
      a.rename change = b.rename change → Ty.segmentOverlaps params a b = true →
        Segment.Alike params consts (.byText params) a b
  | [], _ => by simp
  | first :: rest, simple => by
      obtain ⟨firstSimple, restSimple⟩ := Bool.and_eq_true_iff.mp simple
      rw [List.forall_mem_cons]
      exact ⟨fun b => Segment.alike_of_rename first b firstSimple,
        Segment.alikeEach_of_rename rest restSimple⟩

theorem Argument.alike_of_rename : (a b : Argument) → a.isSimple = true →
    a.rename change = b.rename change → Ty.argumentOverlaps params a b = true →
      Argument.Alike params consts (.byText params) a b
  | .lifetime _, b, _, same, _ => by
      cases b with
      | lifetime => exact .lifetime
      | _ => cases same
  | .type type, b, simple, same, overlap => by
      cases b with
      | type type' =>
          rw [Ty.argumentOverlaps] at overlap
          exact .type (Ty.alike_of_rename type type' simple (Argument.type.inj same) overlap)
      | _ => cases same
  | .const _, _, simple, _, _ | .binding _, _, simple, _, _ => nomatch simple

theorem Argument.alikeEach_of_rename : (arguments : List Argument) →
    Argument.areSimple arguments = true → ∀ a ∈ arguments, ∀ b : Argument,
      a.rename change = b.rename change → Ty.argumentOverlaps params a b = true →
        Argument.Alike params consts (.byText params) a b
  | [], _ => by simp
  | first :: rest, simple => by
      obtain ⟨firstSimple, restSimple⟩ := Bool.and_eq_true_iff.mp simple
      rw [List.forall_mem_cons]
      exact ⟨fun b => Argument.alike_of_rename first b firstSimple,
        Argument.alikeEach_of_rename rest restSimple⟩

end

/-- Simple types that differ in nothing but marks overlap just if they are alike as they are
spelled. -/
theorem Ty.overlaps_iff_alike_of_identified {a b : Ty} (simple : a.isSimple = true)
    (same : a.identified = b.identified) :
    a.overlaps params b = true ↔ Ty.Alike params consts (.byText params) a b :=
  ⟨Ty.alike_of_rename a b simple same, Ty.overlaps_of_alike⟩

end

end SlotSum
