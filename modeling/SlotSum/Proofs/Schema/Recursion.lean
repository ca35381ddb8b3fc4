import SlotSum.Proofs.Expansion.Implementations
import SlotSum.Proofs.Schema.Conversions
import SlotSum.Proofs.Source.Mention

/-!
Slots that refer back to their owner. A slot counts as recursive just if a path type that begins
with the owner's name or with `Self` stands in its payload. Such a slot has no conversion out of the
owner and no bound in any implementation, and every other slot has a bound. A path that leads to the
owner from the root of its crate begins with another word and is not noticed.
-/

namespace SlotSum

variable {schema : Schema} {options : Options} {plan : Plan}

namespace Schema

/-- A bound on a payload, as it stands in a where clause. -/
def boundOn (payload : Ty) (bound : List Node) : List Node :=
  Node.seq [[Node.type payload], [Node.word ":"], bound]

theorem mem_boundedPredicates {bound predicate : List Node} :
    predicate ∈ (schema.boundedGenerics bound).predicates ↔
      predicate ∈ schema.generics.predicates ∨
      ∃ slot ∈ schema.slots, schema.isRecursive slot = false ∧
        predicate = boundOn slot.payload bound := by
  simp only [boundedGenerics, List.mem_append, List.mem_map, List.mem_filter, Bool.not_eq_true']
  constructor
  · rintro (own | ⟨payload, ⟨slot, ⟨here, notRecursive⟩, rfl⟩, rfl⟩)
    · exact .inl own
    · exact .inr ⟨slot, here, notRecursive, rfl⟩
  · rintro (own | ⟨slot, here, notRecursive, rfl⟩)
    · exact .inl own
    · exact .inr ⟨slot.payload, ⟨slot, ⟨here, notRecursive⟩, rfl⟩, rfl⟩

theorem isRecursive_iff {slot : Slot} :
    schema.isRecursive slot = true ↔
      ∃ inner : Ty, inner.Begins [schema.owner.text, "Self"] ∧ inner.Within slot.payload :=
  Ty.mentions_iff

theorem predicates_of_mem (accepted : Plan.analyze schema options = .ok plan)
    {implementation : Implementation} (member : implementation ∈ schema.implementations plan) :
    implementation.generics.predicates = schema.generics.predicates ∨
      ∃ bound, implementation.generics.predicates = (schema.boundedGenerics bound).predicates := by
  rcases (mem_implementations accepted).mp member with rfl | member | ⟨-, rfl⟩
  · exact .inl rfl
  · rcases (mem_traits accepted).mp member with rfl | ⟨-, member⟩ | member | ⟨-, member⟩
    · exact .inl rfl
    · obtain ⟨slot, index, rfl | rfl⟩ := mem_conversions member
      · exact .inl rfl
      · exact .inl rfl
    · rcases mem_equality.mp member with rfl | ⟨-, rfl⟩ | ⟨-, rfl⟩
      · exact .inr ⟨_, rfl⟩
      · exact .inr ⟨_, rfl⟩
      · exact .inr ⟨_, rfl⟩
    · rcases mem_wire.mp member with rfl | rfl
      · exact .inr ⟨_, rfl⟩
      · exact .inr ⟨_, rfl⟩
  · exact .inr ⟨_, rfl⟩

theorem partialEquality_mem (accepted : Plan.analyze schema options = .ok plan) :
    schema.partialEquality ∈ schema.implementations plan := by
  have asked : schema.partialEquality ∈ schema.equality ⟨options.eq, options.hash⟩ :=
    mem_equality.mpr (.inl rfl)
  have trait := (mem_traits accepted).mpr (.inr (.inr (.inl asked)))
  exact (mem_implementations accepted).mpr (.inr (.inl trait))

end Schema

namespace Plan

theorem outOf_iff (accepted : analyze schema options = .ok plan) {index : Nat} {slot : Slot}
    {conversions : Conversions} (here : schema.slots[index]? = some slot)
    (planned : plan.conversions[index]? = some conversions) :
    conversions.outOf = true ↔
      areApart schema = true ∧ slot.payload.isUncovered schema.typeParams = false ∧
        schema.isRecursive slot = false := by
  rw [conversions_of_analyze accepted, planConversions] at planned
  cases apart : areApart schema with
  | true =>
      rw [apart, if_pos rfl, List.getElem?_map, here] at planned
      cases planned
      simp [conversionsOf]
  | false =>
      rw [apart, if_neg (by decide), List.getElem?_map, here] at planned
      cases planned
      simp

end Plan

namespace Schema

/-- The payloads that lead back to the owner are those that name it at the beginning of a path type,
at any depth. They are left out of the conversions out of the owner and of all where clauses, and
they alone are left out of the where clauses. -/
theorem recursion_noticed (accepted : Plan.analyze schema options = .ok plan) :
    (∀ slot : Slot, schema.isRecursive slot = true ↔
      ∃ inner : Ty, inner.Begins [schema.owner.text, "Self"] ∧ inner.Within slot.payload) ∧
    (∀ (index : Nat) (slot : Slot) (conversions : Conversions),
      schema.slots[index]? = some slot → plan.conversions[index]? = some conversions →
      (conversions.outOf = true ↔ Plan.areApart schema = true ∧
        slot.payload.isUncovered schema.typeParams = false ∧ schema.isRecursive slot = false)) ∧
    (∀ implementation ∈ schema.implementations plan,
      ∀ predicate ∈ implementation.generics.predicates, predicate ∈ schema.generics.predicates ∨
        ∃ slot ∈ schema.slots, schema.isRecursive slot = false ∧
          ∃ bound, predicate = boundOn slot.payload bound) ∧
    (∀ slot ∈ schema.slots, schema.isRecursive slot = false →
      ∃ implementation ∈ schema.implementations plan, ∃ bound,
        boundOn slot.payload bound ∈ implementation.generics.predicates) := by
  refine ⟨fun slot => isRecursive_iff, ?_, ?_, ?_⟩
  · intro index slot conversions here planned
    exact Plan.outOf_iff accepted here planned
  · intro implementation member predicate stands
    rcases predicates_of_mem accepted member with own | ⟨bound, bounded⟩
    · rw [own] at stands
      exact .inl stands
    · rw [bounded] at stands
      rcases mem_boundedPredicates.mp stands with own | ⟨slot, here, notRecursive, rfl⟩
      · exact .inl own
      · exact .inr ⟨slot, here, notRecursive, bound, rfl⟩
  · intro slot here notRecursive
    refine ⟨schema.partialEquality, partialEquality_mem accepted, hiddenBound "PartialEq", ?_⟩
    exact mem_boundedPredicates.mpr (.inr ⟨slot, here, notRecursive, rfl⟩)

/-- An expression that is a literal or the negation of another expression. -/
def negation (payload : Ty) : Schema :=
  { owner := ⟨"Expr", .callSite⟩, visibility := .inherited, generics := .empty
    slots :=
      [ ⟨⟨"literal", .callSite⟩, .path false [.mk "i64" .none]⟩,
        ⟨⟨"negated", .callSite⟩, payload⟩ ]
    others := [], derives := [], constructor := none }

def boxed (inner : Ty) : Ty := .path false [.mk "Box" (.angle false [.type inner] false)]

theorem within_boxed (inner : Ty) : inner.Within (boxed inner) :=
  .path (List.mem_singleton_self _) (.arguments (.angle (List.mem_singleton_self _) (.type .self)))

theorem recursion_noticed_boxed :
    let payload := boxed (.path false [.mk "Expr" .none])
    ∃ plan, Plan.analyze (negation payload) .default = .ok plan ∧
      plan.conversions = [⟨true, true⟩, ⟨true, false⟩] ∧
      (negation payload).isRecursive ⟨⟨"negated", .callSite⟩, payload⟩ = true := by
  intro payload
  obtain ⟨plan, accepted⟩ : ∃ plan, Plan.analyze (negation payload) .default = .ok plan := ⟨_, rfl⟩
  have conversions : plan.conversions = [⟨true, true⟩, ⟨true, false⟩] :=
    (Plan.conversions_of_analyze accepted).trans (by decide +kernel)
  refine ⟨plan, accepted, conversions, ?_⟩
  refine ((recursion_noticed accepted).1 _).mpr ⟨.path false [.mk "Expr" .none], ?_, within_boxed _⟩
  exact ⟨.mk "Expr" .none, [], rfl, by decide⟩

/-- The owner is named in the payload by its path from the root of the crate, but the slot has a
conversion out of the owner and a bound. -/
theorem recursion_noticed_prefixed :
    let owner : Ty := .path false [.mk "crate" .none, .mk "Expr" .none]
    let negated : Slot := ⟨⟨"negated", .callSite⟩, boxed owner⟩
    owner.Within negated.payload ∧ negated.payload.text = "Box < crate :: Expr >" ∧
      (negation (boxed owner)).isRecursive negated = false ∧
      ∃ plan, Plan.analyze (negation (boxed owner)) .default = .ok plan ∧
        plan.conversions = [⟨true, true⟩, ⟨true, true⟩] ∧
        (negation (boxed owner)).partialEquality ∈ (negation (boxed owner)).implementations plan ∧
        boundOn negated.payload (hiddenBound "PartialEq") ∈
          (negation (boxed owner)).partialEquality.generics.predicates := by
  intro owner negated
  have notRecursive : (negation (boxed owner)).isRecursive negated = false := by decide
  obtain ⟨plan, accepted⟩ : ∃ plan, Plan.analyze (negation (boxed owner)) .default = .ok plan :=
    ⟨_, rfl⟩
  have conversions : plan.conversions = [⟨true, true⟩, ⟨true, true⟩] :=
    (Plan.conversions_of_analyze accepted).trans (by decide +kernel)
  refine ⟨within_boxed owner, by decide +kernel, notRecursive, plan, accepted, conversions,
    partialEquality_mem accepted, ?_⟩
  exact mem_boundedPredicates.mpr (.inr ⟨negated, by simp [negation, negated], notRecursive, rfl⟩)

end Schema

end SlotSum
