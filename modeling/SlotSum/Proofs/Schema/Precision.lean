import SlotSum.Proofs.Payload.Linear
import SlotSum.Proofs.Schema.Permutation

/-!
Conversions are not withheld without need. Where the payloads are linear terms over the parameters of
the owner, each slot is made into it just if no two payloads have an instance in common, with the
parameters chosen for each of them on its own.
-/

namespace SlotSum.Plan

variable {schema : Schema}

theorem areApart_iff_overlaps :
    areApart schema = true ↔
      ∀ (i j : Nat) (first second : Slot), i ≠ j → schema.slots[i]? = some first →
        schema.slots[j]? = some second →
        first.payload.overlaps schema.typeParams second.payload = false := by
  constructor
  · intro apart i j first second differ here there
    rcases Nat.lt_or_gt_of_ne differ with before | before
    · exact overlaps_of_areApart apart before here there
    · rw [Ty.overlaps_symm]
      exact overlaps_of_areApart apart before there here
  · intro apart
    have places : schema.slots.Pairwise fun first second =>
        first.payload.overlaps schema.typeParams second.payload = false :=
      List.pairwise_iff_getElem.mpr fun i j inside inside' before =>
        apart i j _ _ (Nat.ne_of_lt before) (List.getElem?_eq_getElem inside)
          (List.getElem?_eq_getElem inside')
    have none := Ty.anyOverlap_eq_false_iff.mpr (List.pairwise_map.mpr places)
    cases duplicates : hasDuplicates schema.slots with
    | false => simp [areApart, duplicates, none]
    | true =>
        -- what overlaps without any parameters overlaps with those of the owner
        have overlap := Ty.anyOverlap_mono (List.nil_subset schema.typeParams) duplicates
        exact absurd (overlap.symm.trans none) (by decide)

theorem areApart_iff_meets
    (linear : ∀ slot ∈ schema.slots, slot.payload.IsLinear schema.typeParams) :
    areApart schema = true ↔
      ∀ (i j : Nat) (first second : Slot), i ≠ j → schema.slots[i]? = some first →
        schema.slots[j]? = some second →
        ¬ first.payload.Meets schema.typeParams second.payload := by
  have exactly {first second : Slot} {i j : Nat} (here : schema.slots[i]? = some first)
      (there : schema.slots[j]? = some second) :
      first.payload.overlaps schema.typeParams second.payload = false ↔
        ¬ first.payload.Meets schema.typeParams second.payload := by
    rw [← Ty.overlaps_iff_meets (linear first (List.mem_of_getElem? here))
      (linear second (List.mem_of_getElem? there)), Bool.not_eq_true]
  rw [areApart_iff_overlaps]
  constructor
  · exact fun apart i j first second differ here there =>
      (exactly here there).mp (apart i j first second differ here there)
  · exact fun apart i j first second differ here there =>
      (exactly here there).mpr (apart i j first second differ here there)

/-- The comparison of linear terms says that they may be one just if they have a common instance, up
to groups, parentheses and lifetimes. So the slots of an accepted schema with such payloads are made
into the owner just if no two of them have one. -/
theorem conversions_exact :
    (∀ (params : List String) (a b : Ty), a.IsLinear params → b.IsLinear params →
      (a.overlaps params b = true ↔ a.Meets params b)) ∧
    ∀ (schema : Schema) (options : Options) (plan : Plan), analyze schema options = .ok plan →
      (∀ slot ∈ schema.slots, slot.payload.IsLinear schema.typeParams) →
      plan.conversions.length = schema.slots.length ∧
      ∀ conversions ∈ plan.conversions, (conversions.into = true ↔
        ∀ (i j : Nat) (first second : Slot), i ≠ j → schema.slots[i]? = some first →
          schema.slots[j]? = some second →
          ¬ first.payload.Meets schema.typeParams second.payload) := by
  refine ⟨fun _ _ _ => Ty.overlaps_iff_meets, fun schema options plan accepted linear => ?_⟩
  rw [conversions_of_analyze accepted]
  refine ⟨length_planConversions, fun conversions planned => ?_⟩
  rw [(planConversions_uniform planned).1]
  exact areApart_iff_meets linear

/-- Two slots over the parameters of a table: a key with a number, and a list of keys with something
else. -/
def keyed (other : Ty) : Schema :=
  { owner := ⟨"Keyed", .callSite⟩, visibility := .inherited
    generics := ⟨[.type [] "K" [] [], .type [] "V" [] []], false, [], false⟩
    slots :=
      [ ⟨⟨"one", .callSite⟩, .tuple [.path false [.mk "K" .none], .path false [.mk "u8" .none]]
          false⟩,
        ⟨⟨"many", .callSite⟩, .tuple [listOf (.path false [.mk "K" .none]), other] false⟩ ]
    others := [], derives := [], constructor := none }

theorem isLinear_keyed {other : Ty} (term : other.IsTerm ["K", "V"])
    (once : ("K" :: other.occurrences ["K", "V"]).Nodup) :
    ∀ slot ∈ (keyed other).slots, slot.payload.IsLinear (keyed other).typeParams := by
  have key : (Ty.path false [.mk "K" .none]).IsTerm ["K", "V"] := .param (by decide)
  have number : (Ty.path false [.mk "u8" .none]).IsTerm ["K", "V"] :=
    .name ⟨by decide, by decide⟩
  have inside : ∀ type ∈ [Ty.path false [.mk "K" .none]], type.IsTerm ["K", "V"] := by
    simpa using key
  have keys : (listOf (.path false [.mk "K" .none])).IsTerm ["K", "V"] :=
    .applied ⟨by decide, by decide⟩ inside
  have params : (keyed other).typeParams = ["K", "V"] := rfl
  have keysOnce : (listOf (.path false [.mk "K" .none])).occurrences ["K", "V"] = ["K"] := rfl
  intro slot member
  simp only [keyed, List.mem_cons, List.not_mem_nil, or_false] at member
  rw [params]
  rcases member with rfl | rfl
  · exact ⟨.tuple (by simpa using ⟨key, number⟩), by decide +kernel⟩
  · refine ⟨.tuple (by simpa using ⟨keys, term⟩), ?_⟩
    simpa [Ty.occurrences_tuple, keysOnce] using once

/-- A key can be a list of keys, since it is chosen for each of the payloads on its own. A number is
not a reference. -/
theorem conversions_exact_keyed :
    let value := Ty.path false [.mk "V" .none]
    let near := keyed value
    let apart := keyed (.reference none false value)
    (∃ plan, analyze near .default = .ok plan ∧
      ∃ (i j : Nat) (first second : Slot), i ≠ j ∧ near.slots[i]? = some first ∧
        near.slots[j]? = some second ∧ first.payload.Meets ["K", "V"] second.payload) ∧
    ∃ plan, analyze apart .default = .ok plan ∧
      ∀ (i j : Nat) (first second : Slot), i ≠ j → apart.slots[i]? = some first →
        apart.slots[j]? = some second → ¬ first.payload.Meets ["K", "V"] second.payload := by
  intro value near apart
  have known : value.IsTerm ["K", "V"] := .param (by decide)
  have linear := isLinear_keyed known (by decide +kernel)
  have linear' := isLinear_keyed (.reference known : (Ty.reference none false value).IsTerm _)
    (by decide +kernel)
  obtain ⟨pairs, schemas⟩ := conversions_exact
  obtain ⟨plan, accepted⟩ : ∃ plan, analyze near .default = .ok plan := ⟨_, rfl⟩
  obtain ⟨plan', accepted'⟩ : ∃ plan, analyze apart .default = .ok plan := ⟨_, rfl⟩
  refine ⟨⟨plan, accepted, 0, 1, _, _, by decide, rfl, rfl, ?_⟩, plan', accepted', ?_⟩
  · exact (pairs ["K", "V"] _ _ (linear _ (.head _)) (linear _ (.tail _ (.head _)))).mp
      (by decide +kernel)
  · have planned : plan'.conversions = [⟨true, true⟩, ⟨true, true⟩] :=
      (conversions_of_analyze accepted').trans (by decide +kernel)
    exact ((schemas apart .default plan' accepted' linear').2 ⟨true, true⟩ (by simp [planned])).mp
      rfl

end SlotSum.Plan
