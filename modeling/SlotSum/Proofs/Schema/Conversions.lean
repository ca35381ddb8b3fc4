import SlotSum.Inspect
import SlotSum.Proofs.Payload.Identifier
import SlotSum.Proofs.Result

/-!
The conversions of an accepted schema do not overlap as long as every identifier is spelled in one
way: then no payload with a conversion of its own can be the payload of another slot with one,
whatever the parameters stand for in either of them. A name and the same name with the mark of a raw
name count as two names.
-/

namespace SlotSum.Plan

theorem conversions_of_analyze {schema : Schema} {options : Options} {plan : Plan}
    (accepted : analyze schema options = .ok plan) :
    plan.conversions = planConversions schema := by
  unfold analyze at accepted
  split at accepted
  · obtain ⟨constructor, -, own⟩ := bind_eq_ok.mp accepted
    cases own
    rfl
  · cases accepted

theorem areApart_of_converts {schema : Schema} {place : Nat} {conversions : Conversions}
    (found : (planConversions schema)[place]? = some conversions)
    (converts : (conversions.into || conversions.outOf) = true) : areApart schema = true := by
  unfold planConversions at found
  split at found
  · assumption
  · rw [List.getElem?_map] at found
    cases slot : schema.slots[place]? with
    | none => simp [slot] at found
    | some slot =>
        simp only [slot, Option.map_some, Option.some.injEq] at found
        rw [← found] at converts
        cases converts

theorem overlaps_of_areApart {schema : Schema} (apart : areApart schema = true) {i j : Nat}
    {first second : Slot} (before : i < j) (here : schema.slots[i]? = some first)
    (there : schema.slots[j]? = some second) :
    first.payload.overlaps schema.typeParams second.payload = false := by
  simp only [areApart, Bool.and_eq_true, Bool.not_eq_true'] at apart
  have pairwise := Ty.overlaps_of_anyOverlap apart.2
  obtain ⟨inside, rfl⟩ := List.getElem?_eq_some_iff.mp here
  obtain ⟨inside', rfl⟩ := List.getElem?_eq_some_iff.mp there
  have differ := List.pairwise_iff_getElem.mp pairwise i j (by simpa using inside)
    (by simpa using inside') before
  rw [List.getElem_map, List.getElem_map] at differ
  exact differ

/-- No slot has conversions if the payloads of an earlier and a later one overlap. -/
theorem withheld_of_overlaps {schema : Schema} {options : Options} {plan : Plan}
    (accepted : analyze schema options = .ok plan) {i j : Nat} {first second : Slot}
    (before : i < j) (here : schema.slots[i]? = some first) (there : schema.slots[j]? = some second)
    (overlap : first.payload.overlaps schema.typeParams second.payload = true) :
    ∀ conversions ∈ plan.conversions, conversions = ⟨false, false⟩ := by
  have notApart : ¬ areApart schema = true := by
    intro apart
    simp [overlaps_of_areApart apart before here there] at overlap
  intro conversions planned
  rw [conversions_of_analyze accepted, planConversions, if_neg notApart, List.mem_map] at planned
  obtain ⟨_, -, own⟩ := planned
  exact own.symm

/-- Two slots with conversions have payloads that no choice for the parameters makes one as they are
spelled, or up to marks if every identifier in them is spelled in one way. Each conversion is generic
on its own, so the choices are made independently. More than that, the payloads of any two slots
overlap as soon as there is such a choice, and then nothing is converted. Payloads that differ in
nothing but marks overlap only if they are alike as they are spelled. -/
theorem conversions_apart {schema : Schema} {options : Options} {plan : Plan}
    (accepted : analyze schema options = .ok plan)
    (simple : ∀ slot ∈ schema.slots, slot.payload.isSimple = true) :
    (∀ (i j : Nat) (first second : Slot) (conversions conversions' : Conversions),
      i ≠ j → schema.slots[i]? = some first → schema.slots[j]? = some second →
      plan.conversions[i]? = some conversions → plan.conversions[j]? = some conversions' →
      (conversions.into || conversions.outOf) = true →
      (conversions'.into || conversions'.outOf) = true →
      (∀ left right : Instantiation,
        ¬ Ty.Same (first.payload.instantiate schema.typeParams left)
          (second.payload.instantiate schema.typeParams right)) ∧
      (AreUniform (Ty.spellings schema.typeParams first.payload second.payload) →
        ¬ Ty.MayBeOne schema.typeParams first.payload second.payload)) ∧
    (∀ first ∈ schema.slots, ∀ second ∈ schema.slots,
      ((∃ left right : Instantiation,
          Ty.Same (first.payload.instantiate schema.typeParams left)
            (second.payload.instantiate schema.typeParams right)) →
        first.payload.overlaps schema.typeParams second.payload = true) ∧
      (AreUniform (Ty.spellings schema.typeParams first.payload second.payload) →
        Ty.MayBeOne schema.typeParams first.payload second.payload →
        first.payload.overlaps schema.typeParams second.payload = true) ∧
      (first.payload.identified = second.payload.identified →
        Ty.MayBeOne schema.typeParams first.payload second.payload ∧
        (first.payload.overlaps schema.typeParams second.payload = true ↔
          Ty.Alike schema.typeParams [] (.byText schema.typeParams) first.payload
            second.payload))) ∧
    (∀ (i j : Nat) (first second : Slot), i ≠ j → schema.slots[i]? = some first →
      schema.slots[j]? = some second →
      first.payload.overlaps schema.typeParams second.payload = true →
      ∀ conversions ∈ plan.conversions, conversions = ⟨false, false⟩) := by
  have overlap : ∀ first ∈ schema.slots, ∀ second ∈ schema.slots,
      ((∃ left right : Instantiation,
          Ty.Same (first.payload.instantiate schema.typeParams left)
            (second.payload.instantiate schema.typeParams right)) →
        first.payload.overlaps schema.typeParams second.payload = true) ∧
      (AreUniform (Ty.spellings schema.typeParams first.payload second.payload) →
        Ty.MayBeOne schema.typeParams first.payload second.payload →
        first.payload.overlaps schema.typeParams second.payload = true) := by
    intro first member second member'
    have own := simple first member
    have other := simple second member'
    exact ⟨fun ⟨_, _, same⟩ => Ty.overlaps_of_same own other same,
      fun uniform one => one.overlaps own other uniform⟩
  have withheld : ∀ (i j : Nat) (first second : Slot), i ≠ j → schema.slots[i]? = some first →
      schema.slots[j]? = some second →
      first.payload.overlaps schema.typeParams second.payload = true →
      ∀ conversions ∈ plan.conversions, conversions = ⟨false, false⟩ := by
    intro i j first second differ here there overlap
    -- the comparison runs from the earlier slot to the later one
    rcases Nat.lt_or_gt_of_ne differ with before | before
    · exact withheld_of_overlaps accepted before here there overlap
    · exact withheld_of_overlaps accepted before there here ((Ty.overlaps_symm ..).trans overlap)
  refine ⟨?_, fun first member second member' => ?_, withheld⟩
  · intro i j first second conversions conversions' differ here there planned _ converts _
    have apart : ¬ first.payload.overlaps schema.typeParams second.payload = true := by
      intro overlap
      have none_ := withheld i j first second differ here there overlap conversions
        (List.mem_of_getElem? planned)
      rw [none_] at converts
      cases converts
    have found := overlap first (List.mem_of_getElem? here) second (List.mem_of_getElem? there)
    exact ⟨fun left right same => apart (found.1 ⟨left, right, same⟩),
      fun uniform one => apart (found.2 uniform one)⟩
  · obtain ⟨spelled, uniform⟩ := overlap first member second member'
    refine ⟨spelled, uniform, fun same => ⟨Ty.mayBeOne_of_identified same, ?_⟩⟩
    exact Ty.overlaps_iff_alike_of_identified (simple first member) same

/-- A container of a parameter's lists, pairs and texts. -/
def held : Schema :=
  { owner := ⟨"Held", .callSite⟩, visibility := .pub
    generics := ⟨[.type [] "T" [] []], false, [], false⟩
    slots :=
      [ ⟨⟨"list", .callSite⟩, .path false [.mk "std" .none, .mk "vec" .none,
          .mk "Vec" (.angle false [.type (.path false [.mk "T" .none])] false)]⟩,
        ⟨⟨"pair", .callSite⟩, .array (.path false [.mk "T" .none]) [.literal [] false "2"]⟩,
        ⟨⟨"text", .callSite⟩, .reference (some "'static") false (.path false [.mk "str" .none])⟩ ]
    others := [], derives := [], constructor := none }

theorem conversions_apart_held :
    ∃ plan, analyze held .default = .ok plan ∧
      plan.conversions = [⟨true, true⟩, ⟨true, true⟩, ⟨true, true⟩] ∧
      ¬ Ty.MayBeOne ["T"] (.array (.path false [.mk "T" .none]) [.literal [] false "2"])
        (.reference (some "'static") false (.path false [.mk "str" .none])) := by
  have planned : planConversions held = [⟨true, true⟩, ⟨true, true⟩, ⟨true, true⟩] := by
    decide +kernel
  obtain ⟨plan, accepted⟩ : ∃ plan, analyze held .default = .ok plan := ⟨_, rfl⟩
  have conversions := (conversions_of_analyze accepted).trans planned
  refine ⟨plan, accepted, conversions, ?_⟩
  exact ((conversions_apart accepted (by decide)).1 1 2 _ _ _ _ (by decide) rfl rfl
    (by rw [conversions]; rfl) (by rw [conversions]; rfl) rfl rfl).2 (by decide)

/-- Two slots, with a parameter for the owner. -/
def paired (near far : Ty) : Schema :=
  { owner := ⟨"Paired", .callSite⟩, visibility := .inherited
    generics := ⟨[.type [] "T" [] []], false, [], false⟩
    slots := [⟨⟨"near", .callSite⟩, near⟩, ⟨⟨"far", .callSite⟩, far⟩]
    others := [], derives := [], constructor := none }

def named (name : String) : Ty := .path false [.mk name .none]

/-- A mark tells a type from itself, and a parameter from a type that it may stand for. -/
theorem conversions_apart_marked :
    (∀ pair ∈ [("Foo", "r#Foo"), ("Foo", "r#T")],
      ((readType pair.1).bind fun a =>
        (readType pair.2).map fun b => a.overlaps ["T"] b).toOption = some false) ∧
    ∀ far ∈ [named "r#Foo", named "r#T"],
      (named "Foo").isSimple = true ∧ far.isSimple = true ∧ Ty.MayBeOne ["T"] (named "Foo") far ∧
      ∃ plan, analyze (paired (named "Foo") far) .default = .ok plan ∧
        plan.conversions = [⟨true, true⟩, ⟨true, true⟩] := by
  have planned : ∀ far ∈ [named "r#Foo", named "r#T"],
      planConversions (paired (named "Foo") far) = [⟨true, true⟩, ⟨true, true⟩] := by
    decide +kernel
  have marks : identifier "r#Foo" = "Foo" ∧ identifier "Foo" = "Foo" ∧ identifier "r#T" = "T" ∧
      identifier "T" = "T" := by decide +kernel
  obtain ⟨raw, plain, rawParam, param⟩ := marks
  have identified (name : String) : (named name).identified = named (identifier name) := rfl
  have one : ∀ far ∈ [named "r#Foo", named "r#T"], Ty.MayBeOne ["T"] (named "Foo") far := by
    intro far member
    simp only [List.mem_cons, List.not_mem_nil, or_false] at member
    rcases member with rfl | rfl
    · exact Ty.mayBeOne_of_identified (by rw [identified, identified, raw, plain])
    · let chosen : Instantiation := ⟨fun _ => named "Foo", id⟩
      refine ⟨chosen, chosen, (Ty.Same.refl (named "Foo")).of_bare ?_ ?_⟩
      · rw [identified, plain, List.map_cons, List.map_nil, param]
        rfl
      · rw [identified, rawParam, List.map_cons, List.map_nil, param]
        change (named "Foo").identified.bare = (named "Foo").bare
        rw [identified, plain]
  have simple : ∀ far ∈ [named "r#Foo", named "r#T"], far.isSimple = true := by decide
  refine ⟨by decide +kernel, fun far member => ⟨rfl, simple far member, one far member, ?_⟩⟩
  obtain ⟨plan, accepted⟩ : ∃ plan, analyze (paired (named "Foo") far) .default = .ok plan :=
    ⟨_, rfl⟩
  exact ⟨plan, accepted, (conversions_of_analyze accepted).trans (planned far member)⟩

end SlotSum.Plan
