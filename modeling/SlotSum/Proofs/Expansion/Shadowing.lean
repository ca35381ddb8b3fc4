import SlotSum.Proofs.Expansion.Constructor
import SlotSum.Proofs.Value.FirstOccupied

/-!
Functions of the owner next to those of the trait that is implemented for every owner. A call reaches
a function of the owner first. Of the names that an expansion makes up only one can be a name of the
trait: the accessor of a slot whose stem is `vacant` hides the question whether no slot is occupied.
-/

namespace SlotSum

variable {schema : Schema} {options : Options} {plan : Plan}

/-- The functions of the trait that every owner implements. An expansion implements the first; the
trait itself provides the others. -/
def observers : List String := ["occupied_index", "variant_name", "is_vacant"]

namespace Schema

/-- What a call of `is_vacant` answers: the accessor of this name, if the owner has one, and otherwise
the function of the trait. -/
def answersVacant (schema : Schema) (slots : Slots α) : Bool :=
  match schema.slots.findIdx? fun slot => slot.method "is" == "is_vacant" with
  | some index => (slots.payloadAt index).isSome
  | none => slots.isVacant

theorem method_is_eq_iff {slot : Slot} : slot.method "is" = "is_vacant" ↔ slot.stem = "vacant" := by
  rw [← String.toList_inj, Slot.toList_method, ← String.toList_inj]
  simp

/-- Of the verbs only one begins as a function of the trait does. -/
theorem method_not_mem_observers {slot : Slot} {verb : String} (other : verb ∈ ["from", "as"]) :
    slot.method verb ∉ observers := by
  simp only [List.mem_cons, List.not_mem_nil, or_false] at other
  simp only [observers, List.mem_cons, List.not_mem_nil, or_false, not_or]
  rcases other with rfl | rfl
  · refine ⟨?_, ?_, ?_⟩ <;> exact ne_of_head? (by simp [Slot.toList_method])
  · refine ⟨?_, ?_, ?_⟩ <;> exact ne_of_head? (by simp [Slot.toList_method])

theorem method_is_mem_observers {slot : Slot} :
    slot.method "is" ∈ observers ↔ slot.stem = "vacant" := by
  have others : slot.method "is" ≠ "occupied_index" ∧ slot.method "is" ≠ "variant_name" :=
    ⟨ne_of_head? (by simp [Slot.toList_method]), ne_of_head? (by simp [Slot.toList_method])⟩
  simp [observers, others, method_is_eq_iff]

theorem occupancyAccessor_of_observer (accepted : Plan.analyze schema options = .ok plan)
    {function : Function} (member : function ∈ (schema.expansion plan).own.functions)
    (observer : function.name ∈ observers) :
    ∃ slot ∈ schema.slots, slot.stem = "vacant" ∧ function = schema.occupancyAccessor slot := by
  rw [ownFunctions_eq accepted] at member
  simp only [List.mem_append] at member
  rcases member with constructor | (factory | accessor) | dispatch
  · split at constructor
    · obtain rfl := List.mem_singleton.mp constructor
      exact absurd (show "new" ∈ observers from observer) (by decide)
    · cases constructor
  · obtain ⟨⟨slot, index⟩, -, rfl⟩ := List.mem_map.mp factory
    exact absurd observer (method_not_mem_observers (by simp))
  · obtain ⟨slot, own, accessor⟩ := List.mem_flatMap.mp accessor
    simp only [List.mem_cons, List.not_mem_nil, or_false] at accessor
    rcases accessor with rfl | rfl
    · exact ⟨slot, own, method_is_mem_observers.mp observer, rfl⟩
    · exact absurd observer (method_not_mem_observers (by simp))
  · have named : function.name ∈ ["map", "visit", "map_or_else", "visit_or_else"] :=
      List.mem_map_of_mem (f := Function.name) dispatch
    revert named observer
    generalize function.name = name
    intro observer named
    simp only [List.mem_cons, List.not_mem_nil, or_false] at named
    rcases named with rfl | rfl | rfl | rfl <;> exact absurd observer (by decide)

theorem occupancyAccessor_mem (accepted : Plan.analyze schema options = .ok plan) {slot : Slot}
    (member : slot ∈ schema.slots) :
    schema.occupancyAccessor slot ∈ (schema.expansion plan).own.functions := by
  have accessor : schema.occupancyAccessor slot ∈ schema.accessors :=
    List.mem_flatMap.mpr ⟨slot, member, List.mem_cons_self⟩
  rw [ownFunctions_eq accepted]
  simp [accessor]

theorem answersVacant_iff {α : Type} :
    (∀ slots : Slots α, slots.length = schema.slots.length →
      schema.answersVacant slots = slots.isVacant) ↔
    ∀ slot ∈ schema.slots, slot.stem ≠ "vacant" := by
  constructor
  · intro agrees slot member stem
    have agree := agrees (Slots.vacant schema.slots.length) (by simp [Slots.vacant])
    have vacant : (Slots.vacant schema.slots.length : Slots α).isVacant = true := by
      rw [Slots.isVacant, Slots.occupiedIndex_of_allEmpty (Slots.vacant_allEmpty _)]
      rfl
    rw [vacant, answersVacant] at agree
    split at agree
    · rename_i index found
      simp [Slots.payloadAt, Slots.vacant, List.getElem?_replicate] at agree
      split at agree <;> simp at agree
    · rename_i none_
      have hidden := List.findIdx?_eq_none_iff.mp none_ slot member
      rw [method_is_eq_iff.mpr stem] at hidden
      cases hidden
  · intro others slots _
    have none_ : (schema.slots.findIdx? fun slot => slot.method "is" == "is_vacant") = none :=
      List.findIdx?_eq_none_iff.mpr fun slot member => by
        simpa [method_is_eq_iff] using others slot member
    rw [answersVacant, none_]

/-- A function of the owner has the name of one of the trait only if it is the accessor of a slot whose
stem is `vacant`. Such a slot is also all that makes a call of `is_vacant` answer, on some value,
anything else than the trait does. -/
theorem shadows_decide (accepted : Plan.analyze schema options = .ok plan) :
    schema.introspection.functions.map Function.name = observers.take 1 ∧
    (∀ function ∈ (schema.expansion plan).own.functions, function.name ∈ observers →
      function.name = "is_vacant" ∧
        ∃ slot ∈ schema.slots, slot.stem = "vacant" ∧
          function = schema.occupancyAccessor slot) ∧
    ((∀ function ∈ (schema.expansion plan).own.functions, function.name ∉ observers) ↔
      ∀ slot ∈ schema.slots, slot.stem ≠ "vacant") ∧
    ∀ α : Type,
      (∀ slots : Slots α, slots.length = schema.slots.length →
        schema.answersVacant slots = slots.isVacant) ↔
      ∀ slot ∈ schema.slots, slot.stem ≠ "vacant" := by
  refine ⟨rfl, fun function member observer => ?_, ⟨fun apart slot member stem => ?_,
    fun others function member observer => ?_⟩, fun α => answersVacant_iff⟩
  · obtain ⟨slot, own, stem, rfl⟩ := occupancyAccessor_of_observer accepted member observer
    exact ⟨method_is_eq_iff.mpr stem, slot, own, stem, rfl⟩
  · exact apart _ (occupancyAccessor_mem accepted member) (method_is_mem_observers.mpr stem)
  · obtain ⟨slot, own, stem, -⟩ := occupancyAccessor_of_observer accepted member observer
    exact others slot own stem

/-- The stems of the slots of a block and the names of the functions that the owner gets. -/
def surveyedStems (text : String) : Option (List String × List String) := do
  let (_, _, _, schema) ← readBlock text
  let plan ← (Plan.analyze schema .default).toOption
  return (schema.slots.map Slot.stem, (schema.expansion plan).own.functions.map Function.name)

theorem shadows_decide_apart :
    ∃ block items item schema plan,
      readBlock "struct S \x7b vacancy: Option<u8>, _index: Option<u16> \x7d" =
        some (block, items, item, schema) ∧
      Plan.analyze schema .default = .ok plan ∧
      schema.slots.map Slot.stem = ["vacancy", "index"] ∧
      (∀ function ∈ (schema.expansion plan).own.functions, function.name ∉ observers) ∧
      ∀ slots : Slots Nat, slots.length = schema.slots.length →
        schema.answersVacant slots = slots.isVacant := by
  have surveyed :
      (surveyedStems "struct S \x7b vacancy: Option<u8>, _index: Option<u16> \x7d").map Prod.fst =
        some ["vacancy", "index"] := by
    decide +kernel
  simp only [surveyedStems, Option.bind_eq_bind, Option.map_eq_some_iff, Option.bind_eq_some_iff,
    Option.pure_def, Option.some.injEq, Prod.exists, Prod.mk.injEq, toOption_eq_some] at surveyed
  obtain ⟨_, _, ⟨block, items, item, schema, read, plan, accepted, stems, -⟩, rfl⟩ := surveyed
  obtain ⟨-, -, apart, answers⟩ := shadows_decide accepted
  have others : ∀ slot ∈ schema.slots, slot.stem ≠ "vacant" := by
    intro slot member stem
    have listed : slot.stem ∈ schema.slots.map Slot.stem := List.mem_map_of_mem member
    rw [stems, stem] at listed
    simp at listed
  exact ⟨block, items, item, schema, plan, read, accepted, stems, apart.mpr others,
    (answers Nat).mpr others⟩

/-- A slot named `vacant` gives the owner a function that answers the opposite of the trait's. -/
theorem shadows_decide_vacant :
    ∃ block items item schema plan,
      readBlock "struct S \x7b vacant: Option<u8> \x7d" = some (block, items, item, schema) ∧
      Plan.analyze schema .default = .ok plan ∧
      (∃ function ∈ (schema.expansion plan).own.functions, function.name ∈ observers) ∧
      schema.answersVacant [(none : Option Nat)] = false ∧
      Slots.isVacant [(none : Option Nat)] = true ∧
      schema.answersVacant [some 7] = true ∧ Slots.isVacant [some 7] = false := by
  have surveyed : surveyedStems "struct S \x7b vacant: Option<u8> \x7d" =
      some (["vacant"], ["new", "from_vacant", "is_vacant", "as_vacant", "map", "visit",
        "map_or_else", "visit_or_else"]) := by
    decide +kernel
  simp only [surveyedStems, Option.bind_eq_bind, Option.bind_eq_some_iff, Option.pure_def,
    Option.some.injEq, Prod.exists, Prod.mk.injEq, toOption_eq_some] at surveyed
  obtain ⟨block, items, item, schema, read, plan, accepted, stems, names⟩ := surveyed
  obtain ⟨slot, sole, stem⟩ := List.map_eq_singleton_iff.mp stems
  have shadowing : "is_vacant" ∈ (schema.expansion plan).own.functions.map Function.name := by
    simp [names]
  obtain ⟨function, member, named⟩ := List.mem_map.mp shadowing
  have own : slot.method "is" = "is_vacant" := method_is_eq_iff.mpr stem
  refine ⟨block, items, item, schema, plan, read, accepted,
    ⟨function, member, by rw [named]; decide⟩, ?_, rfl, ?_, rfl⟩
  · simp [answersVacant, sole, own, Slots.payloadAt]
  · simp [answersVacant, sole, own, Slots.payloadAt]

end Schema

end SlotSum
