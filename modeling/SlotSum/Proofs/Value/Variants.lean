import SlotSum.Inspect
import SlotSum.Proofs.Schema.Keys
import SlotSum.Proofs.Text.Spoken
import SlotSum.Proofs.Value.FirstOccupied

/-!
Names of variants. Slots with different stems may share the name of their variants, which then does
not tell which slot of a value is occupied. Slots with plain names share it just if their stems are
spoken alike: if these differ in nothing but underscores that are doubled, stand at an end, or stand
between two numbers.
-/

namespace SlotSum

namespace Slot

/-- The name is made of letters and digits of ASCII and underscores. -/
def IsPlain (slot : Slot) : Prop := Text.IsPlain slot.core

/-- No underscore in the stem is doubled, at an end, or between two numbers. -/
def IsTidy (slot : Slot) : Prop := Text.IsTidy slot.stem.toList

/-- The words of the stem as they are spoken. -/
def spoken (slot : Slot) : List (List Char) := Text.spoken slot.stem.toList

variable {first second : Slot}

theorem variant_eq_iff (plain : first.IsPlain) (plain' : second.IsPlain) :
    first.variant = second.variant ↔ first.spoken = second.spoken := by
  rw [variant, variant, String.ofList_inj, Text.pascal_eq_iff plain plain', spoken, spoken, stem,
    stem, String.toList_ofList, String.toList_ofList]

theorem stem_of_variant (plain : first.IsPlain ∧ first.IsTidy)
    (plain' : second.IsPlain ∧ second.IsTidy) (same : first.variant = second.variant) :
    first.stem = second.stem := by
  rw [variant_eq_iff plain.1 plain'.1] at same
  exact String.toList_inj.mp (Text.eq_of_spoken plain.2 plain'.2 same)

end Slot

/-! ### Values -/

namespace Slots

theorem occupiedIndex_only {count index : Nat} (payload : α) (inside : index < count) :
    (only count index payload).occupiedIndex = some index :=
  occupiedIndex_of_isFirst (only_isFirst payload inside)

theorem occupiedIndex_lt {slots : Slots α} {index : Nat}
    (occupied : slots.occupiedIndex = some index) : index < slots.length := by
  obtain ⟨payload, first⟩ := occupiedIndex_eq_some_iff.mp occupied
  exact (List.getElem?_eq_some_iff.mp (isFirst_iff.mp first).1).1

theorem variantName_of_occupied {slots : Slots α} {variants : List String} {index : Nat}
    (occupied : slots.occupiedIndex = some index) (inside : index < variants.length) :
    slots.variantName variants = some variants[index] := by
  rw [variantName, occupied, Option.bind_some, List.getElem?_eq_getElem inside]

/-- The name of the variant tells which slot is the first occupied one, just if no two slots share
their variants' name. -/
theorem variantName_iff [Nonempty α] {variants : List String} :
    (∀ left right : Slots α, left.length = variants.length → right.length = variants.length →
      (left.variantName variants = right.variantName variants ↔
        left.occupiedIndex = right.occupiedIndex)) ↔ variants.Nodup := by
  constructor
  · intro tells
    obtain ⟨payload⟩ := ‹Nonempty α›
    rw [List.Nodup, List.pairwise_iff_getElem]
    intro i j inside inside' before same
    have occupied := occupiedIndex_only payload inside
    have occupied' := occupiedIndex_only payload inside'
    have named := (variantName_of_occupied occupied inside).trans
      ((congrArg some same).trans (variantName_of_occupied occupied' inside').symm)
    have indices := (tells _ _ (length_only ..) (length_only ..)).mp named
    rw [occupied, occupied', Option.some.injEq] at indices
    omega
  · intro distinct left right length length'
    refine ⟨fun same => ?_, fun same => by rw [variantName, variantName, same]⟩
    cases occupied : left.occupiedIndex with
    | none =>
        cases occupied' : right.occupiedIndex with
        | none => rfl
        | some j =>
            have inside' : j < variants.length := length' ▸ occupiedIndex_lt occupied'
            rw [variantName_of_occupied occupied' inside', variantName, occupied] at same
            cases same
    | some i =>
        have inside : i < variants.length := length ▸ occupiedIndex_lt occupied
        rw [variantName_of_occupied occupied inside] at same
        cases occupied' : right.occupiedIndex with
        | none =>
            rw [variantName, occupied'] at same
            cases same
        | some j =>
            have inside' : j < variants.length := length' ▸ occupiedIndex_lt occupied'
            rw [variantName_of_occupied occupied' inside', Option.some.injEq,
              distinct.getElem_inj_iff] at same
            rw [same]

end Slots

/-! ### Schemas -/

def Finding.schema? : Finding → Option Schema
  | .slots schema _ => some schema
  | .noStruct => none
  | .slotless => none

theorem Finding.eq_of_schema? {finding : Finding} {schema : Schema}
    (own : finding.schema? = some schema) : ∃ plan, finding = .slots schema plan := by
  cases finding with
  | slots found plan =>
      cases own
      exact ⟨plan, rfl⟩
  | noStruct => cases own
  | slotless => cases own

namespace Schema

/-- The names of variants, in the order of the slots. -/
def variants (schema : Schema) : List String := schema.slots.map Slot.variant

variable {declaration : Declaration} {schema : Schema}

theorem variants_nodup (stems : (schema.slots.map Slot.stem).Nodup)
    (tidy : ∀ slot ∈ schema.slots, slot.IsPlain ∧ slot.IsTidy) : schema.variants.Nodup := by
  rw [List.Nodup, List.pairwise_map] at stems
  rw [variants, List.Nodup, List.pairwise_map]
  exact stems.imp_of_mem fun member member' apart same =>
    apart (Slot.stem_of_variant (tidy _ member) (tidy _ member') same)

/-- The name of a variant tells the slots of a value apart just if no two slots share it. Slots with
plain names share it just if their stems are spoken alike; never if the names are tidy as well. -/
theorem variants_tell (extracted : extract declaration = .ok (some schema)) :
    (∀ (α : Type) [Nonempty α],
      (∀ left right : Slots α, left.length = schema.slots.length →
        right.length = schema.slots.length →
        (left.variantName schema.variants = right.variantName schema.variants ↔
          left.occupiedIndex = right.occupiedIndex)) ↔ schema.variants.Nodup) ∧
      (∀ first ∈ schema.slots, ∀ second ∈ schema.slots, first.IsPlain → second.IsPlain →
        (first.variant = second.variant ↔ first.spoken = second.spoken)) ∧
      ((∀ slot ∈ schema.slots, slot.IsPlain ∧ slot.IsTidy) → schema.variants.Nodup) := by
  have length : schema.variants.length = schema.slots.length := List.length_map _
  refine ⟨fun α _ => ?_, fun first _ second _ => Slot.variant_eq_iff,
    variants_nodup (stems_of_extract extracted)⟩
  rw [← length]
  exact Slots.variantName_iff

theorem variants_tell_record :
    ∃ schema, extract (.ofStruct (record [("_aB", []), ("a1_b", [])])) = .ok (some schema) ∧
      schema.variants = ["AB", "A1B"] ∧
      ∀ left right : Slots Nat, left.length = schema.slots.length →
        right.length = schema.slots.length →
        (left.variantName schema.variants = right.variantName schema.variants ↔
          left.occupiedIndex = right.occupiedIndex) := by
  have computed : (extract (.ofStruct (record [("_aB", []), ("a1_b", [])]))).toOption.join.map
      (fun schema => (schema.variants, schema.slots.map Slot.core, schema.slots.map Slot.stem)) =
      some (["AB", "A1B"], [['a', 'B'], ['a', '1', '_', 'b']], ["a_b", "a_1_b"]) := by
    decide +kernel
  obtain ⟨schema, found, names⟩ := Option.map_eq_some_iff.mp computed
  simp only [Prod.mk.injEq] at names
  obtain ⟨shown, cores, stems⟩ := names
  have extracted := toOption_eq_some.mp (Option.join_eq_some_iff.mp found)
  have plain : ∀ core ∈ schema.slots.map Slot.core, Text.IsPlain core := by
    rw [cores]
    decide
  have tidy : ∀ stem ∈ schema.slots.map Slot.stem, Text.IsTidy stem.toList := by
    rw [stems]
    decide
  obtain ⟨tells, -, distinct⟩ := variants_tell extracted
  refine ⟨schema, extracted, shown, (tells Nat).mpr (distinct fun slot member => ?_)⟩
  exact ⟨plain _ (List.mem_map_of_mem member), tidy _ (List.mem_map_of_mem member)⟩

theorem extract_of_inspectItems {options items : String} {plan : Checked Plan}
    (inspected : inspectItems options items = .ok (.slots schema plan)) :
    ∃ declaration, extract declaration = .ok (some schema) := by
  obtain ⟨_, -, inspected⟩ := bind_eq_ok.mp inspected
  obtain ⟨_, -, inspected⟩ := bind_eq_ok.mp inspected
  obtain ⟨options, -, inspected⟩ := bind_eq_ok.mp inspected
  obtain ⟨items, -, inspected⟩ := bind_eq_ok.mp inspected
  have found := mapError_eq_ok.mp inspected
  unfold Finding.ofItems at found
  split at found
  · cases found
  · rename_i item rest _
    cases extracted : extract (.ofItems item items) with
    | error diagnostics => simp [extracted] at found
    | ok result =>
        cases result with
        | none => simp [extracted] at found
        | some own =>
            simp only [extracted, Except.ok.injEq, Finding.slots.injEq] at found
            obtain ⟨rfl, -⟩ := found
            exact ⟨_, extracted⟩

def scoredText : String := "struct S { a_b: Option<u8>, a__b: Option<u16> }"

/-- Two slots with different stems share the name of their variants, and two values whose first
occupied slots differ have one name. -/
theorem variants_tell_scored :
    ∃ schema plan declaration,
      inspectItems "" scoredText = .ok (.slots schema plan) ∧
      extract declaration = .ok (some schema) ∧
      schema.slots.map Slot.stem = ["a_b", "a__b"] ∧ schema.variants = ["AB", "AB"] ∧
      ∃ left right : Slots Unit, left.length = schema.slots.length ∧
        right.length = schema.slots.length ∧
        left.variantName schema.variants = right.variantName schema.variants ∧
        left.occupiedIndex ≠ right.occupiedIndex := by
  have computed : (inspectItems "" scoredText).toOption.bind (fun finding =>
      finding.schema?.map fun schema => (schema.slots.map Slot.stem, schema.variants)) =
      some (["a_b", "a__b"], ["AB", "AB"]) := by
    decide +kernel
  obtain ⟨finding, inspected, computed⟩ := Option.bind_eq_some_iff.mp computed
  obtain ⟨schema, own, names⟩ := Option.map_eq_some_iff.mp computed
  obtain ⟨plan, rfl⟩ := Finding.eq_of_schema? own
  have inspected := toOption_eq_some.mp inspected
  obtain ⟨declaration, extracted⟩ := extract_of_inspectItems inspected
  rw [Prod.mk.injEq] at names
  obtain ⟨stems, variants⟩ := names
  have length : schema.slots.length = 2 := by
    rw [← List.length_map Slot.stem, stems]
    rfl
  refine ⟨schema, plan, declaration, inspected, extracted, stems, variants,
    [some (), none], [none, some ()], length.symm, length.symm, ?_, by decide⟩
  rw [variants]
  rfl

end Schema

end SlotSum
