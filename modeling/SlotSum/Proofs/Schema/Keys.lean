import SlotSum.Expansion.Wire
import SlotSum.Proofs.Schema.Extraction

/-!
Keys and factories. The slots of an extracted schema have different stems, so they have different
keys and different factories, and the factory behind a key is that of the slot with this key.
-/

namespace SlotSum

theorem Slot.stem_of_key {first second : Slot} (same : first.key = second.key) :
    first.stem = second.stem := by
  have names : unmarked first.name.text.toList = unmarked second.name.text.toList := by
    simpa only [key, String.ofList_inj] using same
  rw [stem, stem, core, core, names]

theorem Slot.method_inj {first second : Slot} {verb : String} :
    first.method verb = second.method verb ↔ first.stem = second.stem := by
  simp [method]

theorem idxOf?_of_nodup {keys : List String} (distinct : keys.Nodup) {index : Nat} {key : String}
    (found : keys[index]? = some key) : keys.idxOf? key = some index := by
  obtain ⟨inside, rfl⟩ := List.getElem?_eq_some_iff.mp found
  rw [List.idxOf?_eq_some_iff]
  exact ⟨inside, rfl, fun earlier before same =>
    List.pairwise_iff_getElem.mp distinct earlier index (by omega) inside before same⟩

theorem lookup_of_nodup {names : List String} (distinct : names.Nodup) {index : Nat} {name : String}
    (found : names[index]? = some name) {values : List α} {value : α}
    (held : values[index]? = some value) : (names.zip values).lookup name = some value := by
  induction names generalizing values index with
  | nil => simp at found
  | cons first rest ih =>
      obtain ⟨apart, distinct⟩ := List.nodup_cons.mp distinct
      cases values with
      | nil => simp at held
      | cons other more =>
          cases index with
          | zero =>
              simp only [List.getElem?_cons_zero, Option.some.injEq] at found held
              simp [found, held]
          | succ index =>
              simp only [List.getElem?_cons_succ] at found held
              have differ : name ≠ first := by
                rintro rfl
                exact apart (List.mem_of_getElem? found)
              rw [List.zip_cons_cons, List.lookup_cons, beq_false_of_ne differ]
              exact ih distinct found held

namespace Schema

/-- A schema is only read from slots with different stems. -/
theorem stems_of_extract {declaration : Declaration} {schema : Schema}
    (extracted : extract declaration = .ok (some schema)) :
    (schema.slots.map Slot.stem).Nodup := by
  cases named : declaration.item.fields with
  | named fields trailing =>
      have clean := clean_of_extract extracted named
      rw [extract_of_clean named clean] at extracted
      split at extracted
      · cases extracted
      · obtain ⟨derives, -, own⟩ := map_eq_ok.mp extracted
        cases own
        exact repeats_eq_nil_iff.mp (List.append_eq_nil_iff.mp clean).2
  | positional fields trailing => simp [extract, named] at extracted
  | unit => simp [extract, named] at extracted

theorem keys_nodup_of_stems {schema : Schema} (stems : (schema.slots.map Slot.stem).Nodup) :
    schema.keys.Nodup := by
  rw [keys, List.Nodup, List.pairwise_map]
  exact (List.pairwise_map.mp stems).imp fun apart same => apart (Slot.stem_of_key same)

theorem keys_nodup {declaration : Declaration} {schema : Schema}
    (extracted : extract declaration = .ok (some schema)) : schema.keys.Nodup :=
  keys_nodup_of_stems (stems_of_extract extracted)

theorem keyFactories_eq_zip (schema : Schema) :
    schema.keyFactories = schema.keys.zip (schema.slots.map fun slot => slot.method "from") := by
  simp [keyFactories, keys, List.zip_map']

/-- The first factory with the name behind a key is the one that fills the slot of this key. -/
theorem factory_of_key {declaration : Declaration} {schema : Schema}
    (extracted : extract declaration = .ok (some schema)) {index : Nat} {slot : Slot}
    (found : schema.slots[index]? = some slot) :
    schema.keys.idxOf? slot.key = some index ∧
      schema.keyFactories.lookup slot.key = some (slot.method "from") ∧
      (schema.factories.find? fun function => function.name == slot.method "from") =
        some (schema.factory slot index) := by
  obtain ⟨inside, rfl⟩ := List.getElem?_eq_some_iff.mp found
  have stems := List.pairwise_iff_getElem.mp (List.pairwise_map.mp (stems_of_extract extracted))
  have earlier : ∀ (place : Nat) (before : place < index),
      schema.slots[place].stem ≠ schema.slots[index].stem :=
    fun place before => stems place index (by omega) inside before
  have keyed : schema.keys[index]? = some schema.slots[index].key := by simp [keys, inside]
  refine ⟨idxOf?_of_nodup (keys_nodup extracted) keyed, ?_, ?_⟩
  · rw [keyFactories_eq_zip]
    exact lookup_of_nodup (keys_nodup extracted) keyed (by simp [inside])
  · rw [List.find?_eq_some_iff_getElem]
    refine ⟨by simp [factory], index, by simpa [factories] using inside, by simp [factories], ?_⟩
    intro place before
    simpa [factories, factory, Slot.method_inj] using earlier place before

end Schema

end SlotSum
