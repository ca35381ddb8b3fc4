import SlotSum.Proofs.Expansion.Implementations
import SlotSum.Proofs.Schema.Conversions
import SlotSum.Proofs.Schema.Keys
import SlotSum.Proofs.Value.FirstOccupied
import SlotSum.Proofs.Wire.RoundTrip

/-!
Conversions from payloads and back. A payload that went into a value comes out of its slot and of no
other one; a value that is rejected comes back as it was, so attempts may go on with it until one
of them is on the first occupied slot.
-/

namespace SlotSum

theorem Slots.IsFirst.place_eq {slots : Slots α} {index index' : Nat} {payload payload' : α}
    (first : slots.IsFirst index payload) (first' : slots.IsFirst index' payload') :
    index = index' := by
  have same := (occupiedIndex_of_isFirst first).symm.trans (occupiedIndex_of_isFirst first')
  exact Option.some.inj same

namespace Value

/-- The value that a factory makes: other fields take their defaults. -/
def filled (count : Nat) (initial : β) (index : Nat) (payload : α) : Value α β :=
  ⟨Slots.only count index payload, initial⟩

/-- Attempts to take payloads out of a value, each with what the one before it gave back. Nothing is
left to try after a payload was taken. -/
def attempts (value : Value α β) : List Nat → List (Except (Value α β) α)
  | [] => []
  | index :: rest =>
    match value.take index with
    | .ok payload => [.ok payload]
    | .error value => .error value :: attempts value rest

variable {value : Value α β} {index : Nat} {payload : α} {initial : β} {count : Nat}

theorem filled_isFirst (payload : α) (initial : β) (inside : index < count) :
    (filled count initial index payload).slots.IsFirst index payload :=
  Slots.only_isFirst payload inside

theorem attempts_append {before : List Nat} (after : List Nat)
    (kept : ∀ index ∈ before, value.take index = .error value) :
    value.attempts (before ++ after) =
      List.replicate before.length (.error value) ++ value.attempts after := by
  induction before with
  | nil => rfl
  | cons index rest ih =>
      have here : value.take index = .error value := kept index (.head _)
      rw [List.cons_append, attempts, here, List.length_cons, List.replicate_succ]
      exact congrArg _ (ih fun other member => kept other (.tail _ member))

theorem attempts_of_kept {order : List Nat}
    (kept : ∀ index ∈ order, value.take index = .error value) :
    value.attempts order = List.replicate order.length (.error value) := by
  simpa [attempts] using attempts_append [] kept

/-- A slot that is not the first occupied one gives nothing away. -/
theorem take_of_ne (first : value.slots.IsFirst index payload) {other : Nat}
    (differ : other ≠ index) : value.take other = .error value :=
  take_of_not_isFirst fun _ first' => differ (first'.place_eq first)

/-- The first attempt on the first occupied slot is the only one that succeeds, and the last one. -/
theorem attempts_of_isFirst (first : value.slots.IsFirst index payload) {order : List Nat}
    (tried : index ∈ order) :
    ∃ before after, order = before ++ index :: after ∧ index ∉ before ∧
      value.attempts order = List.replicate before.length (.error value) ++ [.ok payload] := by
  obtain ⟨before, after, rfl, fresh⟩ := List.eq_append_cons_of_mem tried
  refine ⟨before, after, rfl, fresh, ?_⟩
  have kept : ∀ other ∈ before, value.take other = .error value := fun other member =>
    take_of_ne first fun same => fresh (same ▸ member)
  rw [attempts_append _ kept, attempts, take_of_isFirst first]

end Value

namespace Schema

variable {schema : Schema} {options : Options} {plan : Plan}

/-- A factory hands its payload to the constructor in the place of the slot that it fills. -/
theorem soleArguments_eq (schema : Schema) (index : Nat) :
    schema.soleArguments index =
      List.map (fun slot => slot.getD absent)
        (Slots.only schema.slots.length index (presentOf "payload")) := by
  rw [soleArguments, Slots.only, List.map_map]
  refine List.map_congr_left fun other _ => ?_
  by_cases place : other = index
  · simp [place]
  · simp [place]

theorem constructorFunction_mem (accepted : Plan.analyze schema options = .ok plan)
    (generated : plan.constructor = .generate) :
    schema.constructorFunction ∈ (schema.expansion plan).own.functions := by
  refine mem_ownFunctions.mpr ⟨.constructor, ?_, List.mem_cons_self⟩
  rw [(Plan.requests_of_analyze accepted).1]
  simp [Plan.requestsOf, generated]

theorem factory_mem (accepted : Plan.analyze schema options = .ok plan) {index : Nat}
    {slot : Slot} (found : schema.slots[index]? = some slot) :
    schema.factory slot index ∈ (schema.expansion plan).own.functions := by
  refine mem_ownFunctions.mpr ⟨.factories, ?_, ?_⟩
  · rw [(Plan.requests_of_analyze accepted).1]
    simp [Plan.requestsOf]
  · exact List.mem_map.mpr ⟨(slot, index), List.mem_zipIdx_iff_getElem?.mpr found, rfl⟩

/-- What is planned for a slot is implemented with the slot's own place. -/
theorem conversion_mem (accepted : Plan.analyze schema options = .ok plan) {index : Nat}
    {slot : Slot} {conversions : Conversions} (found : schema.slots[index]? = some slot)
    (planned : plan.conversions[index]? = some conversions) {implementation : Implementation}
    (added : implementation ∈ schema.conversionsFor slot conversions index) :
    implementation ∈ (schema.expansion plan).implementations := by
  have converts : (conversions.into || conversions.outOf) = true := by
    simp only [conversionsFor, List.mem_append, List.mem_ite_nil_right] at added
    rcases added with ⟨into, -⟩ | ⟨outOf, -⟩
    · simp [into]
    · simp [outOf]
  have asked : .conversions ∈ plan.requests := by
    have some : plan.conversions.any (fun each => each.into || each.outOf) = true :=
      List.any_eq_true.mpr ⟨conversions, List.mem_of_getElem? planned, converts⟩
    rw [(Plan.requests_of_analyze accepted).1]
    simp [Plan.requestsOf, some]
  refine (mem_traits accepted).mpr (.inr (.inl ⟨asked, ?_⟩))
  refine List.mem_flatMap.mpr ⟨((slot, conversions), index), ?_, added⟩
  rw [List.mem_zipIdx_iff_getElem?, List.getElem?_zip_eq_some]
  exact ⟨found, planned⟩

end Schema

/-- The conversions of an expansion, each for the place of its slot, and what they do with values of
any payloads and any other fields. -/
structure ConversionsInvert (schema : Schema) (plan : Plan) (α : Type) (initial : β) : Prop where
  constructed : schema.constructorFunction ∈ (schema.expansion plan).own.functions
  into : ∀ index slot conversions, schema.slots[index]? = some slot →
    plan.conversions[index]? = some conversions → conversions.into = true →
      schema.fromPayload slot ∈ (schema.expansion plan).implementations ∧
      schema.factory slot index ∈ (schema.expansion plan).own.functions ∧
      (schema.factories.find? fun function => function.name == slot.method "from") =
        some (schema.factory slot index)
  outOf : ∀ index slot conversions, schema.slots[index]? = some slot →
    plan.conversions[index]? = some conversions → conversions.outOf = true →
      schema.tryFromOwner slot index ∈ (schema.expansion plan).implementations
  filled : ∀ index, schema.soleArguments index =
    List.map (fun slot => slot.getD absent)
      (Value.filled schema.slots.length initial index (presentOf "payload")).slots
  returned : ∀ index < schema.slots.length, ∀ payload : α,
    (Value.filled schema.slots.length initial index payload).take index = .ok payload
  rejected : ∀ index < schema.slots.length, ∀ other, other ≠ index → ∀ payload : α,
    (Value.filled schema.slots.length initial index payload).take other =
      .error (Value.filled schema.slots.length initial index payload)
  taken : ∀ (value : Value α β) index payload,
    value.take index = .ok payload ↔ value.slots.IsFirst index payload
  kept : ∀ (value : Value α β) index, (∀ payload, ¬ value.slots.IsFirst index payload) →
    value.take index = .error value
  /-- Attempts in any order that come to the first occupied slot. -/
  recovered : ∀ (value : Value α β) index payload (order : List Nat),
    value.slots.IsFirst index payload → index ∈ order →
      ∃ before after, order = before ++ index :: after ∧ index ∉ before ∧
        value.attempts order = List.replicate before.length (.error value) ++ [.ok payload]
  /-- Attempts that leave the first occupied slot out. -/
  spared : ∀ (value : Value α β) (order : List Nat),
    (∀ index ∈ order, ∀ payload, ¬ value.slots.IsFirst index payload) →
      value.attempts order = List.replicate order.length (.error value)

/-- Conversions are inverse to each other, and lose nothing of a value that they reject. -/
theorem conversions_invert {declaration : Declaration} {schema : Schema} {options : Options}
    {plan : Plan} (extracted : Schema.extract declaration = .ok (some schema))
    (accepted : Plan.analyze schema options = .ok plan)
    (generated : plan.constructor = .generate) (initial : β) :
    ConversionsInvert schema plan α initial where
  constructed := Schema.constructorFunction_mem accepted generated
  into index slot conversions found planned into :=
    ⟨Schema.conversion_mem accepted found planned (by simp [Schema.conversionsFor, into]),
      Schema.factory_mem accepted found, (Schema.factory_of_key extracted found).2.2⟩
  outOf index slot conversions found planned outOf :=
    Schema.conversion_mem accepted found planned (by simp [Schema.conversionsFor, outOf])
  filled := schema.soleArguments_eq
  returned index inside payload := Value.take_of_isFirst (Value.filled_isFirst payload _ inside)
  rejected index inside other differ payload :=
    Value.take_of_ne (Value.filled_isFirst payload _ inside) differ
  taken value index payload := Value.take_eq_ok_iff
  kept value index other := Value.take_of_not_isFirst other
  recovered value index payload order first tried := Value.attempts_of_isFirst first tried
  spared value order others :=
    Value.attempts_of_kept fun index member => Value.take_of_not_isFirst (others index member)

/-- Both slots of an expression can be filled by conversion, and the number taken out. A value that
occupies both gives its number to the first attempt on it. -/
theorem conversions_invert_expression : ∃ schema plan,
    Schema.extract Value.expression = .ok (some schema) ∧
      Plan.analyze schema .default = .ok plan ∧ plan.constructor = .generate ∧
      plan.conversions = [⟨true, true⟩, ⟨true, false⟩] ∧
      ConversionsInvert schema plan Nat "initial" ∧
      (⟨[some 7, some 8], "other"⟩ : Value Nat String).attempts [1, 1, 0, 1] =
        [.error ⟨[some 7, some 8], "other"⟩, .error ⟨[some 7, some 8], "other"⟩, .ok 7] := by
  have computed : (Schema.extract Value.expression).toOption.join.bind (fun schema =>
      (Plan.analyze schema .default).toOption.map fun plan =>
        (plan.constructor, plan.conversions)) =
      some (.generate, [⟨true, true⟩, ⟨true, false⟩]) := by
    decide +kernel
  obtain ⟨schema, found, analyzed⟩ := Option.bind_eq_some_iff.mp computed
  obtain ⟨plan, planned, facts⟩ := Option.map_eq_some_iff.mp analyzed
  obtain ⟨generated, conversions⟩ := Prod.mk.inj facts
  have extracted := toOption_eq_some.mp (Option.join_eq_some_iff.mp found)
  have accepted := toOption_eq_some.mp planned
  have invert : ConversionsInvert schema plan Nat "initial" :=
    conversions_invert extracted accepted generated "initial"
  exact ⟨schema, plan, extracted, accepted, generated, conversions, invert, rfl⟩

end SlotSum
