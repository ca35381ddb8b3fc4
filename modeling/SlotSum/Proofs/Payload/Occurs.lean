import SlotSum.Proofs.Payload.Overlap
import SlotSum.Proofs.Source.Mention

/-!
No type counts as one with a type that takes it as an argument: types are finite, so such a chain of
arguments ends. Only names that may stand for anything have to be kept out of it.
-/

namespace SlotSum

theorem Segment.Same.takes {segment : Segment} {name : String} {turbofish trailing : Bool}
    {arguments : List Argument} {type : Ty}
    (same : Segment.Same segment (.mk name (.angle turbofish arguments trailing)))
    (member : .type type ∈ arguments) :
    ∃ turbofish' arguments' trailing' argument,
      segment = .mk name (.angle turbofish' arguments' trailing') ∧
      .type argument ∈ arguments' ∧ Ty.Same argument type := by
  cases same with
  | @angle arguments' _ _ _ _ _ _ lengths each =>
      obtain ⟨place, inside, here⟩ := List.getElem_of_mem member
      have there : place < arguments'.length := lengths ▸ inside
      have own := each place _ _ (List.getElem?_eq_getElem there)
        (here ▸ List.getElem?_eq_getElem inside)
      cases found : arguments'[place] with
      | type argument =>
          rw [found] at own
          cases own with
          | type same => exact ⟨_, _, _, argument, rfl, found ▸ List.getElem_mem there, same⟩
      | _ => rw [found] at own; cases own

namespace Ty

/-- No name of the owner's own type stands in a type, and no path that leads nowhere. -/
def IsDefinite (type : Ty) : Prop :=
  ∀ rooted segments, (path rooted segments).Within type →
    isOwnName rooted segments = false ∧ segments.dropWhile isLeading ≠ []

theorem isDefinite_name {name : String} (notOwn : name ≠ "Self")
    (notLeading : isLeading (.mk name .none) = false) : (path false [.mk name .none]).IsDefinite := by
  intro rooted segments within
  cases within with
  | self => exact ⟨by simpa [isOwnName] using notOwn, by simp [notLeading]⟩
  | path member below =>
      obtain rfl := List.mem_singleton.mp member
      cases below with
      | arguments below => cases below

theorem sizeOf_bare : (type : Ty) → sizeOf type.bare ≤ sizeOf type
  | group inner => Nat.le_trans (sizeOf_bare inner) (by simp)
  | paren inner => Nat.le_trans (sizeOf_bare inner) (by simp)
  | path .. | projection .. | reference .. | slice .. | array .. | tuple .. | never
  | composite .. => Nat.le_refl _

theorem Within.of_bare {inner : Ty} : (type : Ty) → inner.Within type.bare → inner.Within type
  | .group type, below => .group (Within.of_bare type below)
  | .paren type, below => .paren (Within.of_bare type below)
  | .path .., below | .projection .., below | .reference .., below | .slice .., below
  | .array .., below | .tuple .., below | .never, below | .composite .., below => below

/-- A path has a type among the arguments behind its last name. -/
def Takes (type argument : Ty) : Prop :=
  ∃ rooted segments name turbofish arguments trailing,
    type.bare = path rooted segments ∧
    (segments.dropWhile isLeading).reverse[0]? =
      some (.mk name (.angle turbofish arguments trailing)) ∧
    .type argument ∈ arguments

theorem Takes.sizeOf_lt {type argument : Ty} (takes : type.Takes argument) :
    sizeOf argument < sizeOf type := by
  obtain ⟨rooted, segments, name, turbofish, arguments, trailing, bare, last, member⟩ := takes
  have outer := sizeOf_bare type
  have inside := List.sizeOf_lt_of_mem (mem_of_place last)
  have inner := List.sizeOf_lt_of_mem member
  rw [bare] at outer
  simp only [path.sizeOf_spec, Segment.mk.sizeOf_spec, Arguments.angle.sizeOf_spec,
    Argument.type.sizeOf_spec] at outer inside inner
  omega

theorem IsDefinite.of_takes {type argument : Ty} (definite : type.IsDefinite)
    (takes : type.Takes argument) : argument.IsDefinite := by
  obtain ⟨rooted, segments, name, turbofish, arguments, trailing, bare, last, member⟩ := takes
  intro rooted' segments' within
  refine definite rooted' segments' (Within.of_bare type ?_)
  rw [bare]
  exact .path (mem_of_place last) (.arguments (.angle member (.type within)))

/-- What takes an argument does not count as one with it. -/
theorem Takes.not_same {argument type : Ty} (definite : argument.IsDefinite)
    (notOwn : ∀ rooted segments, type.bare = path rooted segments →
      isOwnName rooted segments = false) (takes : type.Takes argument) :
    ¬ Same argument type := by
  induction size : sizeOf argument using Nat.strongRecOn generalizing argument type with
  | ind size ih =>
      subst size
      intro same
      obtain ⟨rooted, segments, name, turbofish, arguments, trailing, bare, last, member⟩ := takes
      obtain ⟨rooted', segments', bare'⟩ : ∃ rooted segments, argument.bare = path rooted segments := by
        cases same with
        | own left => exact ⟨_, _, left⟩
        | path left => exact ⟨_, _, left⟩
        | _ left right => rw [bare] at right; cases right
      obtain ⟨notOwn', leads⟩ := definite rooted' segments' (.of_bare argument (bare' ▸ .self))
      have paths : Same (path rooted' segments') (path rooted segments) :=
        same.of_bare bare'.symm bare.symm
      have aligned := paths.of_path notOwn' (notOwn rooted segments bare)
      have nonempty : 0 < (segments'.dropWhile isLeading).reverse.length := by
        simpa [List.length_pos_iff] using leads
      have here := List.getElem?_eq_getElem nonempty
      -- the argument takes a type itself, in the same place and smaller
      obtain ⟨turbofish', arguments', trailing', inner, own, member', same'⟩ :=
        (aligned 0 _ _ here last).takes member
      have takes' : argument.Takes inner :=
        ⟨rooted', segments', name, turbofish', arguments', trailing', bare', own ▸ here, member'⟩
      refine ih (sizeOf inner) takes'.sizeOf_lt (definite.of_takes takes') ?_ takes' rfl same'
      intro rooted segments path
      exact (definite rooted segments (.of_bare argument (path ▸ .self))).1

end Ty

end SlotSum
