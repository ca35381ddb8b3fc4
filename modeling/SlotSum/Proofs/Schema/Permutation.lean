import Mathlib.Data.List.FinRange
import SlotSum.Proofs.Payload.Tolerance
import SlotSum.Proofs.Schema.Conversions

/-!
The order of the slots does not matter for their conversions. Each payload is compared only with
those behind it, but the comparison is symmetric, so the same pairs overlap in every order, and each
slot keeps its conversions when the slots are put into another one.
-/

namespace SlotSum

theorem Ty.anyOverlap_eq_false_iff {params : List String} {types : List Ty} :
    Ty.anyOverlap params types = false ↔
      types.Pairwise fun first second => first.overlaps params second = false := by
  refine ⟨Ty.overlaps_of_anyOverlap, fun apart => ?_⟩
  induction apart with
  | nil => rfl
  | cons first _ ih => simpa [Ty.anyOverlap, ih] using first

theorem Ty.anyOverlap_perm {params : List String} {types types' : List Ty}
    (order : types.Perm types') : Ty.anyOverlap params types = Ty.anyOverlap params types' := by
  have apart : Ty.anyOverlap params types = false ↔ Ty.anyOverlap params types' = false := by
    rw [Ty.anyOverlap_eq_false_iff, Ty.anyOverlap_eq_false_iff]
    exact order.pairwise_iff fun apart => by rwa [Ty.overlaps_symm]
  rwa [Bool.eq_iff_iff, ← not_iff_not, Bool.not_eq_true, Bool.not_eq_true]

theorem Ty.anyOverlap_mono {params larger : List String} (within : params ⊆ larger)
    {types : List Ty} (overlap : Ty.anyOverlap params types = true) :
    Ty.anyOverlap larger types = true := by
  cases apart : Ty.anyOverlap larger types with
  | true => rfl
  | false =>
      have fewer := (Ty.anyOverlap_eq_false_iff.mp apart).imp fun {first second} apart => by
        cases overlap : first.overlaps params second with
        | false => exact overlap
        | true => simp [Ty.overlaps_mono within overlap] at apart
      simp [Ty.anyOverlap_eq_false_iff.mpr fewer] at overlap

/-- The schema with its slots in another order. -/
def Schema.permute (schema : Schema) (order : Equiv.Perm (Fin schema.slots.length)) : Schema :=
  { schema with slots := List.ofFn fun place => schema.slots[order place] }

namespace Plan

variable {schema : Schema}

theorem slots_permute (order : Equiv.Perm (Fin schema.slots.length)) :
    (schema.permute order).slots.Perm schema.slots := by
  have reordered : (schema.permute order).slots.Perm
      (List.ofFn fun place : Fin schema.slots.length => schema.slots[place.val]) :=
    order.ofFn_comp_perm fun place => schema.slots[place]
  rwa [List.ofFn_getElem] at reordered

theorem hasDuplicates_permute (order : Equiv.Perm (Fin schema.slots.length)) :
    hasDuplicates (schema.permute order).slots = hasDuplicates schema.slots :=
  Ty.anyOverlap_perm ((slots_permute order).map Slot.payload)

theorem areApart_permute (order : Equiv.Perm (Fin schema.slots.length)) :
    areApart (schema.permute order) = areApart schema := by
  rw [areApart, areApart, hasDuplicates_permute,
    Ty.anyOverlap_perm ((slots_permute order).map Slot.payload)]
  rfl

theorem length_planConversions : (planConversions schema).length = schema.slots.length := by
  rw [planConversions]
  split
  · exact List.length_map _
  · exact List.length_map _

theorem planConversions_permute (order : Equiv.Perm (Fin schema.slots.length))
    (place : Fin schema.slots.length) :
    (planConversions (schema.permute order))[place]? = (planConversions schema)[order place]? := by
  have slot : (schema.permute order).slots[place]? = schema.slots[order place]? := by
    simp [Schema.permute]
  rw [planConversions, planConversions, areApart_permute]
  split
  · simp only [Fin.getElem?_fin, List.getElem?_map] at slot ⊢
    rw [slot]
    rfl
  · simp only [Fin.getElem?_fin, List.getElem?_map] at slot ⊢
    rw [slot]

theorem planConversions_of_not_areApart (together : areApart schema = false) :
    ∀ conversions ∈ planConversions schema, conversions = ⟨false, false⟩ := by
  simp [planConversions, together]

theorem planConversions_uniform {conversions : Conversions}
    (planned : conversions ∈ planConversions schema) :
    conversions.into = areApart schema ∧ (conversions.outOf = true → conversions.into = true) := by
  cases apart : areApart schema with
  | false =>
      rw [planConversions_of_not_areApart apart conversions planned]
      exact ⟨rfl, id⟩
  | true =>
      rw [planConversions, if_pos apart, List.mem_map] at planned
      obtain ⟨slot, -, rfl⟩ := planned
      exact ⟨rfl, fun _ => rfl⟩

/-- The comparison is reflexive, symmetric, and more lenient with more parameters. So the order of
the slots does not matter: in another order each slot keeps its conversions. All slots or none can
be made into the owner, none is converted back that cannot be made into it, and slots that overlap
whatever the parameters stand for also overlap for those of the owner. -/
theorem conversions_order_independent :
    (∀ (params : List String) (a : Ty), a.overlaps params a = true) ∧
    (∀ (params : List String) (a b : Ty), a.overlaps params b = b.overlaps params a) ∧
    (∀ (params larger : List String) (a b : Ty), params ⊆ larger →
      a.overlaps params b = true → a.overlaps larger b = true) ∧
    ∀ schema : Schema,
      (∀ order : Equiv.Perm (Fin schema.slots.length),
        hasDuplicates (schema.permute order).slots = hasDuplicates schema.slots ∧
        (planConversions (schema.permute order)).length = schema.slots.length ∧
        ∀ place : Fin schema.slots.length,
          (planConversions (schema.permute order))[place]? =
            (planConversions schema)[order place]?) ∧
      (∀ first ∈ planConversions schema, ∀ second ∈ planConversions schema,
        first.into = second.into) ∧
      (∀ conversions ∈ planConversions schema,
        conversions.outOf = true → conversions.into = true) ∧
      (hasDuplicates schema.slots = true →
        Ty.anyOverlap schema.typeParams (schema.slots.map Slot.payload) = true ∧
          ∀ conversions ∈ planConversions schema, conversions = ⟨false, false⟩) := by
  refine ⟨fun _ => Ty.overlaps_refl, fun _ => Ty.overlaps_symm,
    fun _ _ _ _ within => Ty.overlaps_mono within, fun schema => ⟨fun order => ?_, ?_, ?_, ?_⟩⟩
  · refine ⟨hasDuplicates_permute order, ?_, planConversions_permute order⟩
    rw [length_planConversions]
    exact List.length_ofFn
  · intro first planned second planned'
    rw [(planConversions_uniform planned).1, (planConversions_uniform planned').1]
  · exact fun conversions planned => (planConversions_uniform planned).2
  · intro duplicates
    have overlap := Ty.anyOverlap_mono (List.nil_subset schema.typeParams) duplicates
    refine ⟨overlap, planConversions_of_not_areApart ?_⟩
    simp [areApart, duplicates]

def listOf (element : Ty) : Ty := .path false [.mk "Vec" (.angle false [.type element] false)]

/-- A container with the lists of a parameter twice, under two paths. -/
def heldTwice : Schema :=
  { held with
    slots := held.slots ++ [⟨⟨"again", .callSite⟩, .paren (listOf (.path false [.mk "T" .none]))⟩] }

theorem conversions_order_independent_held :
    (listOf (.path false [.mk "T" .none])).overlaps ["T", "U"]
        (listOf (.path false [.mk "u8" .none])) = true ∧
      (planConversions (held.permute (Equiv.swap ⟨0, by decide⟩ ⟨2, by decide⟩)))[0]? =
        (planConversions held)[2]? ∧
      (∀ conversions ∈ planConversions held, conversions.outOf = true → conversions.into = true) ∧
      hasDuplicates heldTwice.slots = true ∧
      Ty.anyOverlap ["T"] (heldTwice.slots.map Slot.payload) = true ∧
      ∀ conversions ∈ planConversions heldTwice, conversions = ⟨false, false⟩ := by
  obtain ⟨-, -, mono, schemas⟩ := conversions_order_independent
  obtain ⟨permuted, -, follows, -⟩ := schemas held
  obtain ⟨-, -, -, withheld⟩ := schemas heldTwice
  have swapped := (permuted (Equiv.swap ⟨0, by decide⟩ ⟨2, by decide⟩)).2.2 ⟨0, by decide⟩
  rw [Equiv.swap_apply_left] at swapped
  have duplicates : hasDuplicates heldTwice.slots = true := by decide +kernel
  exact ⟨mono ["T"] ["T", "U"] _ _ (by decide) (by decide +kernel), swapped, follows, duplicates,
    withheld duplicates⟩

end Plan

end SlotSum
