import SlotSum.Proofs.Payload.Uncovered
import SlotSum.Proofs.Schema.Recursion

/-!
Conversions out of the owner into payloads that show a parameter. The rules of coherence refuse such
a conversion if nothing covers the parameter. None is planned for a parameter behind references and
boxes; one behind a pin is taken for covered.
-/

namespace SlotSum.Plan

variable {schema : Schema} {options : Options} {plan : Plan}

theorem outOf_uncovered_iff (accepted : analyze schema options = .ok plan) {index : Nat}
    {slot : Slot} {conversions : Conversions} (here : schema.slots[index]? = some slot)
    (planned : plan.conversions[index]? = some conversions) :
    conversions.outOf = true ∧ slot.payload.UncoveredBy Ty.fundamental schema.typeParams ↔
      areApart schema = true ∧ schema.isRecursive slot = false ∧
        slot.payload.IsPinned schema.typeParams := by
  rw [outOf_iff accepted here planned, Ty.uncoveredBy_fundamental_iff]
  constructor
  · rintro ⟨⟨apart, covered, notRecursive⟩, plain | pinned⟩
    · have uncovered := Ty.isUncovered_iff.mpr (Ty.shows_iff.mpr (.inl plain))
      simp [covered] at uncovered
    · exact ⟨apart, notRecursive, pinned⟩
  · rintro ⟨apart, notRecursive, pinned⟩
    exact ⟨⟨apart, Ty.isUncovered_of_isPinned pinned, notRecursive⟩, .inr pinned⟩

/-- A payload is found uncovered if references and boxes around it come off and leave the name of a
parameter. The rules of coherence disagree just if a pin is met on the way, or if the name stands
behind a double colon. So the conversions that they refuse are those into pinned payloads, of slots
that have conversions at all and do not lead back to the owner. -/
theorem coverage_decide (schema : Schema) (options : Options) :
    (∀ (type : Ty) (params : List String),
      (type.isUncovered params = true ↔
        ∃ rooted, ∃ name ∈ params, Ty.Peels ["Box"] (Ty.parameter rooted name) type) ∧
      ((type.isUncovered params = true ↔ type.UncoveredBy Ty.fundamental params) ↔
        ¬ type.IsPinned params ∧ ¬ type.IsRooted params)) ∧
    ∀ plan, analyze schema options = .ok plan →
      ∀ (index : Nat) (slot : Slot) (conversions : Conversions),
        schema.slots[index]? = some slot → plan.conversions[index]? = some conversions →
        (conversions.outOf = true ∧
            slot.payload.UncoveredBy Ty.fundamental schema.typeParams ↔
          areApart schema = true ∧ schema.isRecursive slot = false ∧
            slot.payload.IsPinned schema.typeParams) := by
  constructor
  · intro type params
    exact ⟨Ty.isUncovered_iff, Ty.isUncovered_agrees_iff⟩
  · intro plan accepted index slot conversions here planned
    exact outOf_uncovered_iff accepted here planned

def around (name : String) (inner : Ty) : Ty :=
  .path false [.mk name (.angle false [.type inner] false)]

theorem peels_around {wrappers : List String} {name : String} {core inner : Ty}
    (known : name ∈ wrappers) (inside : Ty.Peels wrappers core inner) :
    Ty.Peels wrappers core (around name inner) :=
  @Ty.Peels.wrapper _ _ _ _ _ [] _ _ _ known inside

/-- A value of a parameter, and many of them. -/
def batch (value : Ty) : Schema :=
  { owner := ⟨"Batch", .callSite⟩, visibility := .inherited
    generics := ⟨[.type [] "T" [] []], false, [], false⟩
    slots :=
      [ ⟨⟨"many", .callSite⟩, around "Vec" (Ty.parameter false "T")⟩,
        ⟨⟨"value", .callSite⟩, value⟩ ]
    others := [], derives := [], constructor := none }

theorem coverage_decide_boxed :
    let boxed := around "Box" (.reference none false (Ty.parameter false "T"))
    ∃ plan, analyze (batch boxed) .default = .ok plan ∧
      plan.conversions = [⟨true, true⟩, ⟨true, false⟩] ∧
      boxed.isUncovered ["T"] = true ∧ boxed.UncoveredBy Ty.fundamental ["T"] ∧
      ¬ boxed.IsPinned ["T"] := by
  intro boxed
  obtain ⟨plan, accepted⟩ : ∃ plan, analyze (batch boxed) .default = .ok plan := ⟨_, rfl⟩
  have conversions : plan.conversions = [⟨true, true⟩, ⟨true, false⟩] :=
    (conversions_of_analyze accepted).trans (by with_unfolding_all decide)
  have peels (wrappers : List String) (known : "Box" ∈ wrappers) :
      Ty.Peels wrappers (Ty.parameter false "T") boxed :=
    peels_around known (.reference .self)
  have uncovered : boxed.UncoveredBy Ty.fundamental ["T"] :=
    ⟨"T", List.mem_singleton_self _, peels _ (by decide)⟩
  have decided := coverage_decide (batch boxed) .default
  have unpinned : ¬ boxed.IsPinned ["T"] := by
    intro pinned
    have planned : plan.conversions[1]? = some ⟨true, false⟩ := by rw [conversions]; rfl
    have refused := (decided.2 plan accepted 1 _ _ rfl planned).mpr
      ⟨by with_unfolding_all decide, by decide, pinned⟩
    exact absurd refused.1 (by decide)
  have shown := (decided.1 boxed ["T"]).1.mpr
    ⟨false, "T", List.mem_singleton_self _, peels _ (by decide)⟩
  exact ⟨plan, accepted, conversions, shown, uncovered, unpinned⟩

/-- The parameter is taken for covered behind a pin around a box, but the rules of coherence refuse
the conversion that is planned. -/
theorem coverage_decide_pinned :
    let pinned := around "Pin" (around "Box" (Ty.parameter false "T"))
    pinned.UncoveredBy Ty.fundamental ["T"] ∧ pinned.isUncovered ["T"] = false ∧
      ∃ plan, analyze (batch pinned) .default = .ok plan ∧
        plan.conversions = [⟨true, true⟩, ⟨true, true⟩] := by
  intro pinned
  have boxed : Ty.Peels Ty.fundamental (Ty.parameter false "T")
      (around "Box" (Ty.parameter false "T")) := peels_around (by decide) .self
  have uncovered : pinned.UncoveredBy Ty.fundamental ["T"] :=
    ⟨"T", List.mem_singleton_self _, peels_around (by decide) boxed⟩
  obtain ⟨plan, accepted⟩ : ∃ plan, analyze (batch pinned) .default = .ok plan := ⟨_, rfl⟩
  have conversions : plan.conversions = [⟨true, true⟩, ⟨true, true⟩] :=
    (conversions_of_analyze accepted).trans (by with_unfolding_all decide)
  exact ⟨uncovered, by decide, plan, accepted, conversions⟩

end SlotSum.Plan
