import Mathlib.Data.List.Forall2
import SlotSum.Proofs.Payload.Grouping
import SlotSum.Proofs.Schema.Conversions

/-!
Invisible groups do not change a plan. A schema and the same schema with groups around types in its
payloads and in the parameters of its constructor have the same plan, or the same complaints.
-/

namespace SlotSum

/-- The second list has invisible groups around types in the nodes of the first. -/
def Node.GroupsIn : List Node → List Node → Prop := Relation.ReflTransGen (Node.ChangesIn .grouping)

structure Slot.Groups (slot slot' : Slot) : Prop where
  name : slot'.name = slot.name
  payload : slot.payload.Groups slot'.payload

inductive Input.Groups : Input → Input → Prop
  | receiver {nodes nodes' : List Node} (inside : Node.GroupsIn nodes nodes') :
      Input.Groups (.receiver nodes) (.receiver nodes')
  | typed {attributes attributes' pattern pattern' : List Node} {type type' : Ty}
      (before : Node.GroupsIn attributes attributes') (inside : Node.GroupsIn pattern pattern')
      (types : type.Groups type') :
      Input.Groups (.typed attributes pattern type) (.typed attributes' pattern' type')

/-- The signatures have the same parameters up to groups, and are blamed at the same place. -/
structure Signature.Groups (signature signature' : Signature) : Prop where
  inputs : List.Forall₂ Input.Groups signature.inputs signature'.inputs
  span : signature'.span = signature.span

/-- The schemas are the same up to groups, in all that a plan depends on. -/
structure Schema.Groups (schema schema' : Schema) : Prop where
  owner : schema'.owner = schema.owner
  typeParams : schema'.typeParams = schema.typeParams
  derives : schema'.derives = schema.derives
  slots : List.Forall₂ Slot.Groups schema.slots schema'.slots
  constructor : Option.Rel Signature.Groups schema.constructor schema'.constructor

theorem map_of_forall₂ {related : α → β → Prop} {question : α → γ} {question' : β → γ}
    {items : List α} {items' : List β} (both : List.Forall₂ related items items')
    (same : ∀ item item', related item item' → question' item' = question item) :
    items'.map question' = items.map question := by
  induction both with
  | nil => rfl
  | cons first rest ih => rw [List.map_cons, List.map_cons, same _ _ first, ih]

/-! ### Conversions -/

theorem Ty.Groups.overlaps_both {a a' b b' : Ty} (first : a.Groups a') (second : b.Groups b')
    (params : List String) : a'.overlaps params b' = a.overlaps params b := by
  calc
    a'.overlaps params b' = a.overlaps params b' := first.overlaps params b'
    _ = b'.overlaps params a := Ty.overlaps_symm a b'
    _ = b.overlaps params a := second.overlaps params a
    _ = a.overlaps params b := Ty.overlaps_symm b a

theorem Ty.anyOverlap_of_groups {slots slots' : List Slot}
    (groups : List.Forall₂ Slot.Groups slots slots') (params : List String) :
    Ty.anyOverlap params (slots'.map Slot.payload) =
      Ty.anyOverlap params (slots.map Slot.payload) := by
  induction groups with
  | nil => rfl
  | @cons first first' rest rest' own others ih =>
      have overlaps : rest'.map (fun slot => first'.payload.overlaps params slot.payload) =
          rest.map fun slot => first.payload.overlaps params slot.payload :=
        map_of_forall₂ others fun slot slot' each => own.payload.overlaps_both each.payload params
      have any := congrArg (List.any · id) overlaps
      simp only [List.any_map, Function.id_comp] at any
      simp only [List.map_cons, Ty.anyOverlap, ih, List.any_map, Function.comp_def, any]

namespace Plan

variable {schema schema' : Schema}

theorem planConversions_of_groups (groups : schema.Groups schema') :
    planConversions schema' = planConversions schema := by
  have apart : areApart schema' = areApart schema := by
    simp only [areApart, hasDuplicates, groups.typeParams, Ty.anyOverlap_of_groups groups.slots]
  have each : schema'.slots.map (conversionsOf schema') =
      schema.slots.map (conversionsOf schema) := by
    refine map_of_forall₂ groups.slots fun slot slot' own => ?_
    simp only [conversionsOf, Schema.isRecursive, Schema.ownNames, groups.owner, groups.typeParams,
      own.payload.isUncovered, own.payload.mentions]
  have none : (schema'.slots.map fun _ => (⟨false, false⟩ : Conversions)) =
      schema.slots.map fun _ => ⟨false, false⟩ :=
    map_of_forall₂ groups.slots fun _ _ _ => rfl
  rw [planConversions, planConversions, apart, each, none]

/-! ### The constructor -/

theorem takesSlot_of_groups {input input' : Input} {slot slot' : Slot}
    (inputs : input.Groups input') (slots : slot.Groups slot') :
    takesSlot input' slot' = takesSlot input slot := by
  cases inputs with
  | receiver => rfl
  | typed _ _ types =>
      have payloads := congrArg (Option.any (· == slot.payload.key)) types.payload?
      simp only [Option.any_map] at payloads
      simpa only [takesSlot, slots.payload.key] using payloads

theorem takesSlots_of_groups {signature signature' : Signature} {slots slots' : List Slot}
    (signatures : signature.Groups signature') (groups : List.Forall₂ Slot.Groups slots slots') :
    takesSlots signature' slots' = takesSlots signature slots := by
  have unfolded (signature : Signature) (slots : List Slot) : takesSlots signature slots =
      (!signature.hasReceiver && signature.inputs.length == slots.length &&
        (signature.inputs.zip slots).all (Function.uncurry takesSlot)) := rfl
  have each {inputs inputs' : List Input} (own : List.Forall₂ Input.Groups inputs inputs') :
      (inputs'.zip slots').all (Function.uncurry takesSlot) =
        (inputs.zip slots).all (Function.uncurry takesSlot) := by
    induction own generalizing slots slots' with
    | nil => rfl
    | cons first rest ih =>
        cases groups with
        | nil => rfl
        | cons slot others =>
            simp only [List.zip_cons_cons, List.all_cons, Function.uncurry_apply_pair,
              takesSlot_of_groups first slot, ih others]
  have receiver : signature'.hasReceiver = signature.hasReceiver := by
    have inputs := signatures.inputs
    simp only [Signature.hasReceiver]
    generalize signature.inputs = own at inputs ⊢
    generalize signature'.inputs = own' at inputs ⊢
    cases inputs with
    | nil => rfl
    | cons first rest => cases first <;> rfl
  simp only [unfolded, receiver, ← signatures.inputs.length_eq, ← groups.length_eq,
    each signatures.inputs]

theorem constructorPlan_of_groups (groups : schema.Groups schema') :
    constructorPlan schema' = constructorPlan schema := by
  have shown : (schema'.slots.map fun slot => (slot.name.text, slot.payload.display)) =
      schema.slots.map fun slot => (slot.name.text, slot.payload.display) := by
    refine map_of_forall₂ groups.slots fun slot slot' own => ?_
    rw [own.name, own.payload.display]
  have constructors := groups.constructor
  unfold constructorPlan
  generalize schema.constructor = written at constructors ⊢
  generalize schema'.constructor = written' at constructors ⊢
  cases constructors with
  | none => rfl
  | some signatures =>
      simp only [takesSlots_of_groups signatures groups.slots, shown, signatures.span]

/-! ### The plan -/

/-- Invisible groups around the types in a type, at any depth, change neither its text nor its
payload, what it mentions, whether it is uncovered and what it overlaps. So they change no plan. -/
theorem groups_transparent :
    (∀ type type' : Ty, type.Groups type' →
      type'.key = type.key ∧ type'.payload?.map Ty.key = type.payload?.map Ty.key ∧
      (∀ names, type'.mentions names = type.mentions names) ∧
      (∀ params, type'.isUncovered params = type.isUncovered params) ∧
      ∀ params other, type'.overlaps params other = type.overlaps params other ∧
        other.overlaps params type' = other.overlaps params type) ∧
    ∀ schema schema' : Schema, schema.Groups schema' →
      ∀ options, analyze schema' options = analyze schema options := by
  constructor
  · intro type type' groups
    refine ⟨groups.key, groups.payload?, groups.mentions, groups.isUncovered, ?_⟩
    intro params other
    exact ⟨groups.overlaps params other, Ty.Groups.overlaps_both .refl groups params⟩
  · intro schema schema' groups options
    have duplicates : hasDuplicates schema'.slots = hasDuplicates schema.slots :=
      Ty.anyOverlap_of_groups groups.slots []
    simp only [analyze, groups.derives, constructorPlan_of_groups groups,
      planConversions_of_groups groups, duplicates]

def applied (name : String) (argument : Ty) : Ty :=
  .path false [.mk name (.angle false [.type argument] false)]

/-- Many values of a parameter or a label, with a constructor that is written by hand. -/
def collection (many : Ty) : Schema :=
  let label : Ty := .path false [.mk "String" .none]
  { owner := ⟨"Batch", .callSite⟩, visibility := .inherited
    generics := ⟨[.type [] "T" [] []], false, [], false⟩
    slots := [⟨⟨"many", .callSite⟩, many⟩, ⟨⟨"label", .callSite⟩, label⟩]
    others := [], derives := []
    constructor := some
      { qualifiers := [], name := ⟨"new", .callSite⟩, generics := .empty
        inputs :=
          [ .typed [] "many" (applied "Option" many), .typed [] "label" (applied "Option" label) ]
        trailing := false, variadic := [], output := [], span := .callSite } }

theorem groups_transparent_collection :
    let parameter : Ty := .path false [.mk "T" .none]
    let plain := applied "Vec" parameter
    let grouped : Ty := .group (applied "Vec" (.group parameter))
    plain.Groups grouped ∧ grouped.key = "Vec < T >" ∧
      (collection plain).Groups (collection grouped) ∧
      ∃ plan, analyze (collection plain) .default = .ok plan ∧
        analyze (collection grouped) .default = .ok plan ∧ plan.constructor = .handWritten ∧
        plan.conversions = [⟨true, true⟩, ⟨true, true⟩] := by
  intro parameter plain grouped
  have within {type type' : Ty} (name : String) (inside : Ty.Changes .grouping type type') :
      Ty.Changes .grouping (applied name type) (applied name type') :=
    .path (.first (.arguments (.angle (.first (.type inside)))))
  have inner : plain.Groups (applied "Vec" (.group parameter)) := .single (within "Vec" (.here rfl))
  have groups : plain.Groups grouped := inner.tail (.here rfl)
  have schemas : (collection plain).Groups (collection grouped) := by
    refine ⟨rfl, rfl, rfl, ?_, .some ⟨?_, rfl⟩⟩
    · exact .cons ⟨rfl, groups⟩ (.cons ⟨rfl, .refl⟩ .nil)
    · have input := groups.lift (applied "Option") fun _ _ => within "Option"
      exact .cons (.typed .refl .refl input) (.cons (.typed .refl .refl .refl) .nil)
  obtain ⟨plan, accepted⟩ : ∃ plan, analyze (collection plain) .default = .ok plan := ⟨_, rfl⟩
  have conversions : plan.conversions = [⟨true, true⟩, ⟨true, true⟩] :=
    (conversions_of_analyze accepted).trans (by with_unfolding_all decide)
  have written : (analyze (collection plain) .default).toOption.map Plan.constructor =
      some .handWritten := by
    with_unfolding_all decide
  rw [accepted] at written
  refine ⟨groups, ?_, schemas, plan, accepted, ?_, Option.some.inj written, conversions⟩
  · exact (groups_transparent.1 plain grouped groups).1.trans (by with_unfolding_all decide)
  · exact (groups_transparent.2 _ _ schemas .default).trans accepted

end Plan

end SlotSum
