import SlotSum.Proofs.Expansion.Behaviour
import SlotSum.Wire.Read

/-!
What the generated functions for the wire format do: a value is written by its first occupied slot,
and a map is read as the entries of the format are. The owner is named by its type here, which is
printed as the owner is everywhere else.
-/

namespace SlotSum

open Program

/-- A map of one entry, or of none. -/
def Json.ofEntry : Option (String × Json) → Json
  | some (key, payload) => .object [.mk (some key) payload] true
  | none => .object [] true

theorem Slots.json_eq_ofEntry {keys : List String} {slots : Slots Payload}
    (lengths : keys.length = slots.length) :
    slots.json keys =
      Json.ofEntry ((slots.map (keys.map Prod.mk)).map fun entry => (entry.1, entry.2.json)) := by
  rcases slots.isFirst_or_allEmpty with ⟨index, payload, first⟩ | empty
  · obtain ⟨key, keyed⟩ := first.exists_getElem? lengths
    have chosen : (keys.map (Prod.mk (β := Payload)))[index]? = some (Prod.mk key) := by
      simp [keyed]
    rw [json_of_isFirst first keyed, map_of_isFirst first chosen]
    rfl
  · rw [json_of_allEmpty keys empty, map_of_allEmpty _ empty]
    rfl

namespace Program.World

/-- A serializer that makes a map of what it is given. -/
def writing {m : Type → Type} [Monad m] {β : Type} (world : World m Payload β Json) :
    World m Payload β Json :=
  { world with
    write := fun entry => pure (Json.ofEntry (entry.map fun entry => (entry.1, entry.2.json))) }

end Program.World

namespace Schema

variable {schema : Schema} {m : Type → Type} [Monad m] {α β γ : Type} {world : World m α β γ}
  {value : Value α β} {owner : Ty}

/-! ### Writing -/

def serializeProgram (schema : Schema) : Body where
  block := schema.occupiedScan fun slot =>
    .returning (.writtenSlot (.variable "serializer") slot.key (.variable "payload"))
  result := some (.writtenVacant (.variable "serializer"))

theorem serialization_does (owner : Ty) (stems : (schema.slots.map Slot.stem).Nodup)
    (serves : world.Serves schema) (width : value.slots.length = schema.slots.length) :
    ∃ function, schema.serialization.functions = [function] ∧
      function.Does owner schema.serializeProgram world [.owner value, .device]
        (do
          let output ← world.write (value.slots.map (schema.keys.map Prod.mk))
          return some (world.returned output)) := by
  refine ⟨_, rfl, ?_, ?_⟩
  · simp only [serializeProgram, Body.trees]
    rw [trees_occupiedScan fun slot => returning
      (callOf (wireHelper "serialize_slot") ["serializer", Quoted.literal slot.key, "payload"])]
    · rfl
    · exact fun slot => rfl
  · change Body.run world schema.serializeProgram
      [("self", .owner value), ("serializer", .device)] = _
    rw [serializeProgram, Body.run, run_occupiedScan stems serves width rfl
      (schema.keys.map Prod.mk) (by simp [keys]) fun entry =>
        world.write (some entry) >>= fun output => pure (some (world.returned output))]
    · cases value.slots.map (schema.keys.map Prod.mk) <;> rfl
    · intro index slot handler payload next here handled
      have keyed : handler = Prod.mk slot.key := by
        simpa [keys, here] using handled.symm
      simp [keyed, List.lookup_cons]

/-- A serializer that makes a map of what it is given makes the wire form of a value. -/
theorem serialization_writes [LawfulMonad m] {world : World m Payload β Json}
    {value : Value Payload β} (stems : (schema.slots.map Slot.stem).Nodup)
    (serves : world.Serves schema) (width : value.slots.length = schema.slots.length) :
    ∃ function, schema.serialization.functions = [function] ∧
      function.Does owner schema.serializeProgram world.writing [.owner value, .device]
        (pure (some (world.returned (value.slots.json schema.keys)))) := by
  have serves : world.writing.Serves schema := ⟨serves.fields, serves.factories⟩
  obtain ⟨function, sole, body, run⟩ := serialization_does owner stems serves width
  have lengths : schema.keys.length = value.slots.length := by simp [keys, width]
  exact ⟨function, sole, body, run.trans (by simp [World.writing, Slots.json_eq_ofEntry lengths])⟩

/-! ### Reading -/

/-- The arms of the choice by a key. -/
def keyChoices (schema : Schema) : List (String × Program.Expr) :=
  schema.keyFactories.map fun row => (row.1, .read .byType row.2 "map")

def visitMapProgram (schema : Schema) : Body where
  block :=
    .texts "KEYS" schema.keys <|
    .letElse (.present (.name "key")) (.tried (.nextKey "map"))
      (.returning (.success (.new .byType (schema.slots.map fun _ => .absent)))) <|
    .choose "value" (.asText "key")
      schema.keyChoices
      (.returning (.failure true (.unknownKey "key" "KEYS"))) <|
    .step (.tried (.entryEnd "map")) .done
  result := some (.success (.variable "value"))

/-- Reads a map key by key: the first key chooses the slot, and nothing may follow its value. -/
def readMap (world : World m α β γ) (keys : List String) : m (Reading (Slots α)) := do
  match ← world.nextKey with
  | .error reason => return .error reason
  | .ok none => return .ok (Slots.vacant keys.length)
  | .ok (some key) =>
    match keys.idxOf? key with
    | none => return .error (.unknownVariant key keys)
    | some index =>
      match ← world.nextValue index with
      | .error reason => return .error reason
      | .ok payload =>
        match ← world.entryEnd with
        | .error reason => return .error reason
        | .ok () => return .ok (Slots.only keys.length index payload)

/-- A key chooses the factory of its slot, and no key is chosen that is none of the slots. -/
theorem lookup_keyChoices (stems : (schema.slots.map Slot.stem).Nodup) (key : String) :
    match schema.keys.idxOf? key with
    | some index => ∃ slot, schema.slots[index]? = some slot ∧
        schema.keyChoices.lookup key = some (.read .byType (slot.method "from") "map")
    | none => schema.keyChoices.lookup key = none := by
  have choices : schema.keyChoices =
      schema.keys.zip (schema.slots.map fun slot => .read .byType (slot.method "from") "map") := by
    simp [keyChoices, keyFactories, keys, List.zip_map', Function.comp_def]
  rw [choices]
  cases found : schema.keys.idxOf? key with
  | none =>
      refine List.lookup_eq_none_iff.mpr fun row member => bne_iff_ne.mpr ?_
      rintro rfl
      exact List.idxOf?_eq_none_iff.mp found (List.of_mem_zip member).1
  | some index =>
      obtain ⟨inside, keyed, -⟩ := List.idxOf?_eq_some_iff.mp found
      have keyed : schema.keys[index]? = some key := List.getElem?_eq_some_iff.mpr ⟨inside, keyed⟩
      have place : index < schema.slots.length := by simpa [keys] using inside
      exact ⟨_, List.getElem?_eq_getElem place,
        lookup_of_nodup (keys_nodup_of_stems stems) keyed (by simp [place])⟩

theorem trees_keyChoices (schema : Schema) :
    (schema.keyChoices.map fun row =>
        Tree.seq [Quoted.literal row.1, "=>", row.2.trees schema.ownerType]) =
      schema.keyFactories.map fun row => Tree.seq [Quoted.literal row.1, "=>",
        schema.ownerCall row.2 [Tree.seq [callOf (Tree.words "map . next_value") [], "?"]]] := by
  rw [keyChoices, List.map_map]
  refine List.map_congr_left fun row _ => ?_
  rw [Function.comp_apply, Expr.trees, Owner.path, trees_ownerType]
  rfl

theorem visitMapFunction_does [LawfulMonad m] (stems : (schema.slots.map Slot.stem).Nodup)
    (serves : world.Serves schema) :
    schema.visitMapFunction.Does schema.ownerType schema.visitMapProgram world [.unit, .device]
      (do
        let reading ← readMap world schema.keys
        return some (.ofReading (fun slots => .owner ⟨slots, world.initial⟩) reading)) where
  body := by
    simp only [visitMapProgram, Body.trees, Block.trees, trees_keyChoices]
    simp only [visitMapFunction, keyArms, ownerCall, Pattern.trees, Expr.trees, Owner.path,
      trees_ownerType, treesEach_eq_map, Tree.seq, List.map_map, List.flatten_cons,
      List.flatten_nil, List.append_nil, List.append_assoc, List.cons_append, List.nil_append,
      Option.map_some, Option.getD_some]
    rfl
  run := by
    have count : schema.slots.length = world.fields.length := by simp [serves.fields]
    change Body.run world schema.visitMapProgram [("self", .unit), ("map", .device)] = _
    rw [readMap, bind_assoc]
    simp only [visitMapProgram, Body.run, Block.run, Expr.run, List.lookup_cons]
    refine bind_congr fun key => ?_
    cases key with
    | error reason => simp
    | ok key =>
      cases key with
      | none =>
          have vacant := run_new schema.slots count
            [("KEYS", .texts schema.keys), ("self", .unit), ("map", .device)] (fun _ => .absent)
            (fun _ => none) (fun _ _ => rfl) .byType fun got _ => pure (some (.success got))
          simpa [Slots.vacant, keys] using vacant
      | some key =>
          have choice := lookup_keyChoices stems key
          cases found : schema.keys.idxOf? key with
          | none =>
              rw [found] at choice
              simp [List.lookup_cons, choice, found]
          | some index =>
              rw [found] at choice
              obtain ⟨slot, here, choice⟩ := choice
              have place := place_factory stems here serves
              simp only [Meaning.ofReading, Option.map_some, Option.getD_some, Pattern.fit,
                List.cons_append, List.nil_append, List.lookup_cons, String.reduceBEq, BEq.rfl,
                choice, found, place, Expr.run, orStuck, bind_pure_comp, map_bind]
              refine bind_congr fun read => ?_
              cases read with
              | error reason => simp
              | ok payload =>
                  rw [map_bind]
                  refine bind_congr fun ended => ?_
                  cases ended with
                  | error reason => simp
                  | ok => simp [count, keys]

end Schema

/-- The key of the next entry of a map, if there is one. -/
def Entry.nextKey (closed : Bool) : List Entry → Reading (Option String)
  | [] => if closed then .ok none else .error .malformed
  | entry :: _ =>
    match entry.key with
    | some key => .ok (some key)
    | none => .error .malformed

/-- The value of the entry whose key was read. -/
def Entry.nextValue {α : Type} (read : Json → Reading α) : List Entry → Reading α × List Entry
  | [] => (.error .malformed, [])
  | entry :: rest => (read entry.value, rest)

namespace Program.World

/-- A map that gives its entries one after another. -/
def reading {α β γ : Type} (world : World (StateM (List Entry)) α β γ) (keys : List String)
    (read : Nat → Json → Reading α) (closed : Bool) : World (StateM (List Entry)) α β γ :=
  { world with
    nextKey := fun entries => (Entry.nextKey closed entries, entries)
    nextValue := fun index entries => Entry.nextValue (read index) entries
    entryEnd := fun rest => (Entry.finish (Slots.expectation keys) rest closed, rest) }

end Program.World

namespace Schema

variable {schema : Schema} {α β γ : Type} {keys : List String} {read : Nat → Json → Reading α}
  {closed : Bool}

theorem run_readMap (world : World (StateM (List Entry)) α β γ) (entries : List Entry) :
    (readMap (world.reading keys read closed) keys entries).1 =
      Slots.readEntries keys read entries closed := by
  have step {δ ε : Type} (act : StateM (List Entry) δ) (next : δ → StateM (List Entry) ε)
      (entries : List Entry) : (act >>= next) entries = next (act entries).1 (act entries).2 := rfl
  rw [readMap, step]
  simp only [World.reading]
  cases entries with
  | nil => cases closed <;> rfl
  | cons entry rest =>
      rw [Slots.readEntries, Entry.nextKey]
      cases entry.key with
      | none => rfl
      | some key =>
          cases found : keys.idxOf? key with
          | none =>
              simp only [found]
              rfl
          | some index =>
              simp only [found, step, Entry.nextValue]
              cases read index entry.value with
              | error reason => rfl
              | ok payload =>
                  simp only [step]
                  cases Entry.finish (Slots.expectation keys) rest closed <;> rfl

/-- The generated reader of a map reads the entries that the wire format has. -/
theorem visitMapFunction_reads {world : World (StateM (List Entry)) α β γ}
    (stems : (schema.slots.map Slot.stem).Nodup) (serves : world.Serves schema) :
    ∃ outcome, schema.visitMapFunction.Does schema.ownerType schema.visitMapProgram
        (world.reading schema.keys read closed) [.unit, .device] outcome ∧
      ∀ entries, (outcome entries).1 =
        some (.ofReading (fun slots => .owner ⟨slots, world.initial⟩)
          (Slots.readEntries schema.keys read entries closed)) := by
  have serves : (world.reading schema.keys read closed).Serves schema :=
    ⟨serves.fields, serves.factories⟩
  refine ⟨_, visitMapFunction_does stems serves, fun entries => ?_⟩
  rw [← run_readMap world]
  rfl

end Schema

end SlotSum
