import SlotSum.Expansion.Assembly
import SlotSum.Proofs.Result

/-!
The implementations of an expansion, one by one: the owner's own functions, what is implemented for
every owner, and what the options ask for.
-/

namespace SlotSum

variable {schema : Schema} {options : Options} {plan : Plan}

namespace Plan

theorem requests_of_analyze (accepted : analyze schema options = .ok plan) :
    plan.requests = requestsOf plan.constructor plan.conversions options ∧
      plan.equalities = ⟨options.eq, options.hash⟩ := by
  unfold analyze at accepted
  split at accepted
  · obtain ⟨constructor, -, own⟩ := bind_eq_ok.mp accepted
    cases own
    exact ⟨rfl, rfl⟩
  · cases accepted

theorem serde_mem_requests (accepted : analyze schema options = .ok plan) :
    .serde ∈ plan.requests ↔ options.serde = true := by
  rw [(requests_of_analyze accepted).1]
  simp [requestsOf]

end Plan

namespace Schema

/-- All implementations of an expansion: those that stand in it, and the one of the visitor, which
stands in the body of a function. -/
def implementations (schema : Schema) (plan : Plan) : List Implementation :=
  let expansion := schema.expansion plan
  expansion.own :: expansion.implementations ++
    if .serde ∈ plan.requests then [schema.visitor] else []

/-- The functions of the owner come of the parts that are asked for. -/
theorem mem_ownFunctions {function : Function} :
    function ∈ (schema.expansion plan).own.functions ↔
      ∃ request ∈ plan.requests, function ∈ (schema.part plan request).functions := by
  simp [expansion, expansionFor, Implementation.functions, List.flatMap_map]

theorem mem_traits (accepted : Plan.analyze schema options = .ok plan)
    {implementation : Implementation} :
    implementation ∈ (schema.expansion plan).implementations ↔
      implementation = schema.introspection ∨
      (.conversions ∈ plan.requests ∧ implementation ∈ schema.conversions plan) ∨
      implementation ∈ schema.equality ⟨options.eq, options.hash⟩ ∨
      (options.serde = true ∧ implementation ∈ schema.wire) := by
  obtain ⟨requests, equalities⟩ := Plan.requests_of_analyze accepted
  have asks : implementation ∈ (schema.expansion plan).implementations ↔
      ∃ request ∈ plan.requests, implementation ∈ (schema.part plan request).implementations := by
    simp [expansion, expansionFor, List.flatMap_map]
  rw [asks, ← equalities, ← Plan.serde_mem_requests accepted]
  constructor
  · rintro ⟨request, asked, added⟩
    cases request with
    | introspection => exact .inl (List.mem_singleton.mp added)
    | conversions => exact .inr (.inl ⟨asked, added⟩)
    | equality => exact .inr (.inr (.inl added))
    | serde => exact .inr (.inr (.inr ⟨asked, added⟩))
    | _ => cases added
  · rintro (rfl | ⟨asked, added⟩ | added | ⟨asked, added⟩)
    · exact ⟨.introspection, by simp [requests, Plan.requestsOf], List.mem_singleton_self _⟩
    · exact ⟨.conversions, asked, added⟩
    · exact ⟨.equality, by simp [requests, Plan.requestsOf], added⟩
    · exact ⟨.serde, asked, added⟩

theorem mem_conversions {implementation : Implementation}
    (member : implementation ∈ schema.conversions plan) :
    ∃ slot index, implementation = schema.fromPayload slot ∨
      implementation = schema.tryFromOwner slot index := by
  obtain ⟨⟨⟨slot, conversions⟩, index⟩, -, added⟩ := List.mem_flatMap.mp member
  refine ⟨slot, index, ?_⟩
  rcases List.mem_append.mp added with added | added
  · split at added
    · exact .inl (List.mem_singleton.mp added)
    · cases added
  · split at added
    · exact .inr (List.mem_singleton.mp added)
    · cases added

theorem mem_equality {equalities : Equalities} {implementation : Implementation} :
    implementation ∈ schema.equality equalities ↔
      implementation = schema.partialEquality ∨
      (equalities.eq = true ∧ implementation = schema.fullEquality) ∨
      (equalities.hash = true ∧ implementation = schema.hashing) := by
  cases eq : equalities.eq <;> cases hash : equalities.hash <;> simp [equality, eq, hash]

theorem mem_wire {implementation : Implementation} :
    implementation ∈ schema.wire ↔
      implementation = schema.serialization ∨ implementation = schema.deserialization := by
  simp [wire]

theorem mem_implementations (accepted : Plan.analyze schema options = .ok plan)
    {implementation : Implementation} :
    implementation ∈ schema.implementations plan ↔
      implementation = (schema.expansion plan).own ∨
      implementation ∈ (schema.expansion plan).implementations ∨
      (options.serde = true ∧ implementation = schema.visitor) := by
  have read := Plan.serde_mem_requests accepted
  cases asked : options.serde <;> simp [implementations, read, asked]

end Schema

end SlotSum
