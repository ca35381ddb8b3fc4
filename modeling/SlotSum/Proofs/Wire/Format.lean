import SlotSum.Proofs.Wire.Depth
import SlotSum.Proofs.Wire.RoundTrip

/-!
The wire format. A text is read just if it is an empty map, or one with the key of a slot and a
payload that the slot can hold; for every other text it is said which rejection comes of it. This
holds of texts without faults, and of all others whose faults are not what they are rejected for,
since they stand where nothing is read any more.
-/

namespace SlotSum

/-! ### Values without faults -/

namespace Json

mutual

/-- There is no fault in a value, and all texts and numbers in it can be read. -/
def isSound : Json → Bool
  | null => true
  | boolean _ => true
  | number value => value ≠ .tooLarge
  | text value => value.isSome
  | array items closed => areSound items && closed
  | object entries closed => entriesSound entries && closed
  | broken => false

def areSound : List Json → Bool
  | [] => true
  | first :: rest => first.isSound && areSound rest

def entriesSound : List Entry → Bool
  | [] => true
  | .mk key value :: rest => key.isSome && value.isSound && entriesSound rest

end

mutual

theorem isComplete_of_isSound : (json : Json) → json.isSound = true → json.isComplete = true
  | .null, _ => rfl
  | .boolean _, _ => rfl
  | .number _, _ => rfl
  | .text _, _ => rfl
  | .array items closed, sound => by
      simp only [isSound, isComplete, Bool.and_eq_true] at sound ⊢
      exact ⟨areComplete_of_areSound items sound.1, sound.2⟩
  | .object entries closed, sound => by
      simp only [isSound, isComplete, Bool.and_eq_true] at sound ⊢
      exact ⟨entriesComplete_of_entriesSound entries sound.1, sound.2⟩

theorem areComplete_of_areSound : (items : List Json) → areSound items = true →
    areComplete items = true
  | [], _ => rfl
  | first :: rest, sound => by
      simp only [areSound, areComplete, Bool.and_eq_true] at sound ⊢
      exact ⟨isComplete_of_isSound first sound.1, areComplete_of_areSound rest sound.2⟩

theorem entriesComplete_of_entriesSound : (entries : List Entry) → entriesSound entries = true →
    entriesComplete entries = true
  | [], _ => rfl
  | .mk key value :: rest, sound => by
      simp only [entriesSound, entriesComplete, Bool.and_eq_true] at sound ⊢
      exact ⟨isComplete_of_isSound value sound.1.2, entriesComplete_of_entriesSound rest sound.2⟩

end

theorem skippable_of_entriesSound {entries : List Entry} (sound : entriesSound entries = true) :
    (entries.all fun entry => entry.key.isSome && entry.value.isComplete) = true := by
  induction entries with
  | nil => rfl
  | cons entry rest ih =>
      obtain ⟨key, value⟩ := entry
      simp only [entriesSound, Bool.and_eq_true] at sound
      rw [List.all_cons, ih sound.2]
      simp [Entry.key, Entry.value, sound.1.1, isComplete_of_isSound value sound.1.2]

theorem mismatch_eq (json : Json) (expected : String) :
    json.isSound = false ∧ json.mismatch expected = .malformed ∨
      ∃ found, json.mismatch expected = .invalidType found expected := by
  cases json with
  | number value =>
      cases value with
      | tooLarge => exact .inl ⟨rfl, rfl⟩
      | _ => exact .inr ⟨_, rfl⟩
  | text value =>
      cases value with
      | none => exact .inl ⟨rfl, rfl⟩
      | some value => exact .inr ⟨_, rfl⟩
  | broken => exact .inl ⟨rfl, rfl⟩
  | _ => exact .inr ⟨_, rfl⟩

end Json

/-! ### The format -/

namespace Slots

/-- Reads a value of the wire, the payload of each slot in its own way. -/
def readWith (keys : List String) (decode : Nat → Json → Reading α) : Json → Reading (Slots α)
  | .object entries closed => readEntries keys decode entries closed
  | other => .error (other.mismatch (expectation keys))

/-- What a value of the wire is read as, and how it is rejected if it is not. -/
structure FollowsFormat (keys : List String) (decode : Nat → Json → Reading α) (json : Json)
    (result : Reading (Slots α)) : Prop where
  accepted : ∀ slots, result = .ok slots ↔
    json = .object [] true ∧ slots = vacant keys.length ∨
      ∃ index key value payload, json = .object [.mk (some key) value] true ∧
        keys[index]? = some key ∧ decode index value = .ok payload ∧
        slots = only keys.length index payload
  unknown : ∀ key value rest closed, json = .object (.mk (some key) value :: rest) closed →
    key ∉ keys → result = .error (.unknownVariant key keys)
  refused : ∀ index key value rest closed rejection,
    json = .object (.mk (some key) value :: rest) closed → keys[index]? = some key →
    decode index value = .error rejection → result = .error rejection
  /-- All entries are counted, those with one key too. -/
  surplus : ∀ index key value rest closed payload,
    json = .object (.mk (some key) value :: rest) closed → keys[index]? = some key →
    decode index value = .ok payload → rest ≠ [] →
    result = .error (.invalidLength (rest.length + 1) (expectation keys))
  kind : (∀ entries closed, json ≠ .object entries closed) →
    ∃ found, result = .error (.invalidType found (expectation keys))

variable {keys : List String} {decode : Nat → Json → Reading α}

section

variable {index : Nat} {key : String} {value : Json} {rest : List Entry} {closed : Bool}

theorem readEntries_unknown (unknown : key ∉ keys) :
    readEntries keys decode (.mk (some key) value :: rest) closed =
      .error (.unknownVariant key keys) := by
  simp [readEntries, Entry.key, List.idxOf?_eq_none_iff.mpr unknown]

theorem readEntries_known (distinct : keys.Nodup) (keyed : keys[index]? = some key) :
    readEntries keys decode (.mk (some key) value :: rest) closed = (do
      let payload ← decode index value
      Entry.finish (expectation keys) rest closed
      return only keys.length index payload) := by
  simp only [readEntries, Entry.key, idxOf?_of_nodup distinct keyed]
  rfl

theorem readEntries_refused {rejection : Rejection} (distinct : keys.Nodup)
    (keyed : keys[index]? = some key) (refused : decode index value = .error rejection) :
    readEntries keys decode (.mk (some key) value :: rest) closed = .error rejection := by
  rw [readEntries_known distinct keyed, refused]
  rfl

theorem readEntries_surplus {payload : α} (distinct : keys.Nodup)
    (keyed : keys[index]? = some key) (own : decode index value = .ok payload)
    (more : rest ≠ []) :
    readEntries keys decode (.mk (some key) value :: rest) closed =
      if closed && rest.all fun entry => entry.key.isSome && entry.value.isComplete then
        .error (.invalidLength (rest.length + 1) (expectation keys))
      else .error .malformed := by
  have finished : Entry.finish (expectation keys) rest closed =
      if closed && rest.all fun entry => entry.key.isSome && entry.value.isComplete then
        .error (.invalidLength (rest.length + 1) (expectation keys))
      else .error .malformed := by
    simp only [Entry.finish, List.isEmpty_iff, more, if_false]
  rw [readEntries_known distinct keyed, own, finished]
  split
  · rfl
  · rfl

end

theorem readWith_followsFormat (distinct : keys.Nodup) {json : Json}
    (readable : json.isSound = true ∨ readWith keys decode json ≠ .error .malformed) :
    FollowsFormat keys decode json (readWith keys decode json) where
  accepted slots := by
    constructor
    · intro accepted
      cases json with
      | object entries closed =>
          cases entries with
          | nil =>
              have accepted : readEntries keys decode [] closed = .ok slots := accepted
              obtain ⟨rfl, vacant⟩ := readEntries_nil_ok accepted
              exact .inl ⟨rfl, vacant⟩
          | cons entry rest =>
              obtain ⟨key, value⟩ := entry
              obtain ⟨rfl, rfl, index, key, payload, rfl, keyed, own, only⟩ :=
                readEntries_cons_ok accepted
              exact .inr ⟨index, key, value, payload, rfl, keyed, own, only⟩
      | _ => cases accepted
    · rintro (⟨rfl, rfl⟩ | ⟨index, key, value, payload, rfl, keyed, own, rfl⟩)
      · rfl
      · exact readEntries_sole distinct keyed own
  unknown key value rest closed found absent := by
    subst found
    exact readEntries_unknown absent
  refused index key value rest closed rejection found keyed refused := by
    subst found
    exact readEntries_refused distinct keyed refused
  surplus index key value rest closed payload found keyed own more := by
    subst found
    rw [readWith, readEntries_surplus distinct keyed own more] at readable ⊢
    refine if_pos ?_
    rcases readable with sound | read
    · simp only [Json.isSound, Json.entriesSound, Bool.and_eq_true] at sound
      rw [Json.skippable_of_entriesSound sound.1.2, sound.2]
      rfl
    · exact Decidable.of_not_not fun faulty => read (if_neg faulty)
  kind apart := by
    have rejected : readWith keys decode json = .error (json.mismatch (expectation keys)) := by
      cases json with
      | object entries closed => exact absurd rfl (apart entries closed)
      | _ => rfl
    rw [rejected] at readable ⊢
    rcases json.mismatch_eq (expectation keys) with ⟨faulty, fault⟩ | ⟨found, mismatch⟩
    · rw [faulty, fault] at readable
      simp at readable
    · exact ⟨found, congrArg Except.error mismatch⟩

end Slots

/-! ### Texts -/

/-- How the payload of a slot is read on its own. -/
def RecordShape.payload (shapes : Shapes) (record : RecordShape) (index : Nat) (json : Json) :
    Reading Payload :=
  match record.shapes[index]? with
  | some shape => Reader.nested shapes Reader.depthLimit shape json
  | none => .error .malformed

theorem Slots.readWith_payload (shapes : Shapes) (record : RecordShape) (json : Json) :
    Slots.readWith record.keys (record.payload shapes) json =
      Reader.slots (some (Reader.nested shapes Reader.depthLimit)) record json := by
  cases json <;> rfl

namespace Document

/-- A text that can be read, whatever it is read as: it has no fault and does not nest too
deeply. -/
structure IsSound (document : Document) : Prop where
  ended : document.ended = true
  value : document.value.isSound = true
  shallow : document.value.brackets ≤ Reader.depthLimit

variable {shapes : Shapes} {record : RecordShape} {document : Document}

theorem read_of_isSound (sound : document.IsSound) :
    document.read shapes record =
      Slots.readWith record.keys (record.payload shapes) document.value := by
  have same : Slots.ofJson shapes record document.value =
      Slots.readWith record.keys (record.payload shapes) document.value := by
    rw [Slots.readWith_payload]
    refine Agreement.equal.slots (.deeper fun inner less shape => ?_)
    have shallow := sound.shallow
    exact Reader.nested_succ shapes _ shape inner (by omega)
  rw [read, same]
  cases Slots.readWith record.keys (record.payload shapes) document.value with
  | error rejection => rfl
  | ok slots => exact if_pos sound.ended

theorem read_of_ne_malformed (clean : document.read shapes record ≠ .error .malformed) :
    document.read shapes record =
      Slots.readWith record.keys (record.payload shapes) document.value := by
  have further : Agreement.further.Holds (Slots.ofJson shapes record document.value)
      (Slots.readWith record.keys (record.payload shapes) document.value) := by
    rw [Slots.readWith_payload]
    exact Agreement.further.slots (.deeper fun inner _ shape => Reader.nested_further _ _ _ _)
  rw [read] at clean ⊢
  rcases further with fault | same
  · rw [fault] at clean
    exact absurd rfl clean
  · rw [same]
    cases own : Slots.ofJson shapes record document.value with
    | error rejection => rfl
    | ok slots =>
        rw [own] at clean
        exact if_pos (Decidable.of_not_not fun unended => clean (if_neg unended))

end Document

structure ReadsFormat (shapes : Shapes) (schema : Schema) (record : RecordShape) (initial : β) :
    Prop where
  /-- A text that is sound, or one that is not rejected for a fault. -/
  text : ∀ text, (Document.scan text).IsSound ∨
      Value.read shapes record initial text ≠ .error .malformed →
    ∃ result,
      Slots.FollowsFormat record.keys (record.payload shapes) (Document.scan text).value result ∧
      Value.read shapes record initial text = result.map fun slots => ⟨slots, initial⟩
  /-- Payloads of any type, each read in its own way. -/
  any : ∀ (α : Type) (decode : Nat → Json → Reading α) (json : Json),
    json.isSound = true ∨ Slots.readWith record.keys decode json ≠ .error .malformed →
    Slots.FollowsFormat record.keys decode json (Slots.readWith record.keys decode json)
  /-- The key of a slot leads to the factory of the same slot. -/
  keyed : ∀ index slot, schema.slots[index]? = some slot →
    record.keys[index]? = some slot.key ∧
    schema.keyFactories.lookup slot.key = some (slot.method "from") ∧
    (schema.factories.find? fun function => function.name == slot.method "from") =
      some (schema.factory slot index)

namespace Value

/-- Every type reads its wire format and nothing else. -/
theorem read_format {shapes : Shapes} {declaration : Declaration} {schema : Schema}
    {record : RecordShape} {initial : β}
    (extracted : Schema.extract declaration = .ok (some schema))
    (keys : record.keys = schema.keys) : ReadsFormat shapes schema record initial where
  text text readable := by
    have distinct : record.keys.Nodup := keys ▸ Schema.keys_nodup extracted
    rcases readable with sound | clean
    · refine ⟨_, Slots.readWith_followsFormat distinct (.inl sound.value), ?_⟩
      rw [Value.read, Document.read_of_isSound sound]
    · have clean' : (Document.scan text).read shapes record ≠ .error .malformed := fun fault =>
        clean (by rw [Value.read, fault]; rfl)
      have same := Document.read_of_ne_malformed clean'
      refine ⟨_, Slots.readWith_followsFormat distinct (.inr (same ▸ clean')), ?_⟩
      rw [Value.read, same]
  any α decode json readable :=
    Slots.readWith_followsFormat (keys ▸ Schema.keys_nodup extracted) readable
  keyed index slot found := by
    obtain ⟨-, lookup, factory⟩ := Schema.factory_of_key extracted found
    exact ⟨by rw [keys, Schema.keys, List.getElem?_map, found]; rfl, lookup, factory⟩

/-- The texts of an empty map and of a number, and texts that are rejected for each of the reasons. -/
theorem read_format_expression :
    let read (json : Json) := Value.read expressionShapes expressionShape () json.write
    let expected := Slots.expectation expressionShape.keys
    let one : Json := .number (.integer 1)
    read (.object [] true) = .ok ⟨[none, none], ()⟩ ∧
      read (.object [.mk (some "literal") one] true) =
        .ok ⟨[some (.integer ⟨true, 8⟩ 1), none], ()⟩ ∧
      read (.object [.mk (some "other") one, .mk (some "literal") one] true) =
        .error (.unknownVariant "other" ["literal", "negated"]) ∧
      read (.object [.mk (some "literal") .null, .mk (some "other") one] true) =
        .error (.invalidType "null" "i64") ∧
      read (.object [.mk (some "literal") one, .mk (some "literal") one] true) =
        .error (.invalidLength 2 expected) ∧
      ∃ found, read (.array [one] true) = .error (.invalidType found expected) := by
  obtain ⟨schema, extracted, keys, count⟩ := extract_expression
  have reads : ReadsFormat expressionShapes schema expressionShape () :=
    read_format extracted keys.symm
  have one : (Number.integer 1).IsFaithful := Number.isFaithful_integer (by decide) (by decide)
  have written (json : Json) (faithful : json.IsFaithful) (sound : json.isSound = true)
      (shallow : json.brackets ≤ Reader.depthLimit) := by
    have own := reads.text json.write
    rw [Document.scan_write faithful] at own
    exact own (.inl ⟨rfl, sound, shallow⟩)
  refine ⟨?_, ?_, ?_, ?_, ?_, ?_⟩
  · obtain ⟨result, follows, read⟩ := written (.object [] true) ⟨trivial, rfl⟩ rfl (by decide)
    refine read.trans ?_
    rw [(follows.accepted _).mpr (.inl ⟨rfl, rfl⟩)]
    rfl
  · obtain ⟨result, follows, read⟩ := written
      (.object [.mk (some "literal") (.number (.integer 1))] true)
      ⟨⟨⟨rfl, one⟩, trivial⟩, rfl⟩ rfl (by decide)
    refine read.trans ?_
    rw [(follows.accepted _).mpr (.inr ⟨0, _, _, _, rfl, rfl, rfl, rfl⟩)]
    rfl
  · obtain ⟨result, follows, read⟩ := written
      (.object [.mk (some "other") (.number (.integer 1)),
        .mk (some "literal") (.number (.integer 1))] true)
      ⟨⟨⟨rfl, one⟩, ⟨rfl, one⟩, trivial⟩, rfl⟩ rfl (by decide)
    refine read.trans ?_
    rw [follows.unknown _ _ _ _ rfl (by decide)]
    rfl
  · obtain ⟨result, follows, read⟩ := written
      (.object [.mk (some "literal") .null, .mk (some "other") (.number (.integer 1))] true)
      ⟨⟨⟨rfl, trivial⟩, ⟨rfl, one⟩, trivial⟩, rfl⟩ rfl (by decide)
    refine read.trans ?_
    rw [follows.refused 0 _ _ _ _ _ rfl rfl rfl]
    rfl
  · obtain ⟨result, follows, read⟩ := written
      (.object [.mk (some "literal") (.number (.integer 1)),
        .mk (some "literal") (.number (.integer 1))] true)
      ⟨⟨⟨rfl, one⟩, ⟨rfl, one⟩, trivial⟩, rfl⟩ rfl (by decide)
    refine read.trans ?_
    rw [follows.surplus 0 _ _ _ _ _ rfl rfl rfl (by simp)]
    rfl
  · obtain ⟨result, follows, read⟩ := written (.array [.number (.integer 1)] true)
      ⟨⟨one, trivial⟩, rfl⟩ rfl (by decide)
    obtain ⟨found, rejected⟩ := follows.kind (by simp)
    refine ⟨found, read.trans ?_⟩
    rw [rejected]
    rfl

end Value

end SlotSum
