import SlotSum.Proofs.Result
import SlotSum.Proofs.Wire.Settled

/-!
Payloads that were read. Whatever a reader accepts comes back from its own wire form, which has no
more brackets open than the reader allows.
-/

namespace SlotSum

theorem Entry.finish_ok {expected : String} {rest : List Entry} {closed : Bool}
    (accepted : Entry.finish expected rest closed = .ok ()) : rest = [] ∧ closed = true := by
  rw [Entry.finish] at accepted
  split at accepted
  · rename_i complete
    split at accepted
    · rename_i empty
      exact ⟨List.isEmpty_iff.mp empty, (Bool.and_eq_true_iff.mp complete).1⟩
    · cases accepted
  · cases accepted

namespace Slots

variable {keys : List String} {read : Nat → Json → Reading α} {closed : Bool} {slots : Slots α}

theorem readEntries_nil_ok (accepted : readEntries keys read [] closed = .ok slots) :
    closed = true ∧ slots = vacant keys.length := by
  rw [readEntries] at accepted
  split at accepted
  · rename_i own
    exact ⟨own, (Except.ok.inj accepted).symm⟩
  · cases accepted

theorem readEntries_cons_ok {key : Option String} {json : Json} {rest : List Entry}
    (accepted : readEntries keys read (.mk key json :: rest) closed = .ok slots) :
    rest = [] ∧ closed = true ∧ ∃ index name payload, key = some name ∧
      keys[index]? = some name ∧ read index json = .ok payload ∧
      slots = only keys.length index payload := by
  simp only [readEntries, Entry.key] at accepted
  cases key with
  | none => cases accepted
  | some name =>
      simp only at accepted
      split at accepted
      · cases accepted
      · rename_i index found
        obtain ⟨payload, own, accepted⟩ := bind_eq_ok.mp accepted
        obtain ⟨_, finished, accepted⟩ := bind_eq_ok.mp accepted
        obtain ⟨alone, whole⟩ := Entry.finish_ok finished
        obtain ⟨inside, keyed, -⟩ := List.idxOf?_eq_some_iff.mp found
        refine ⟨alone, whole, index, name, payload, rfl, ?_, own, (Except.ok.inj accepted).symm⟩
        rw [List.getElem?_eq_getElem inside]
        exact congrArg some keyed

/-- Slots that were read are vacant, or only one is occupied, by what was read for its key. -/
theorem readEntries_ok {entries : List Entry}
    (accepted : readEntries keys read entries closed = .ok slots) :
    slots = vacant keys.length ∨
      ∃ index json payload, index < keys.length ∧ read index json = .ok payload ∧
        slots = only keys.length index payload := by
  cases entries with
  | nil => exact .inl (readEntries_nil_ok accepted).2
  | cons entry rest =>
      obtain ⟨key, json⟩ := entry
      obtain ⟨-, -, index, name, payload, -, keyed, own, rfl⟩ := readEntries_cons_ok accepted
      obtain ⟨inside, -⟩ := List.getElem?_eq_some_iff.mp keyed
      exact .inr ⟨index, json, payload, inside, own, rfl⟩

end Slots

theorem Slots.written_ne_null (keys : List String) (slots : Slots Json) :
    Slots.written keys slots ≠ .null := by
  induction slots generalizing keys with
  | nil => cases keys <;> simp [Slots.written]
  | cons slot rest ih =>
      cases keys with
      | nil => simp [Slots.written]
      | cons key more =>
          cases slot with
          | some payload => simp [Slots.written]
          | none => simpa [Slots.written] using ih more

namespace Reader

variable {shapes : Shapes} {record : RecordShape}

theorem items_ok {read : Json → Reading Payload} {values : List Json} {closed : Bool}
    {payloads : List Payload} (accepted : items read values closed = .ok payloads) :
    ∀ payload ∈ payloads, ∃ json, read json = .ok payload := by
  induction values generalizing payloads with
  | nil =>
      rw [items] at accepted
      split at accepted
      · cases accepted
        simp
      · cases accepted
  | cons first rest ih =>
      obtain ⟨payload, own, accepted⟩ := bind_eq_ok.mp accepted
      obtain ⟨more, others, accepted⟩ := bind_eq_ok.mp accepted
      cases accepted
      rw [List.forall_mem_cons]
      exact ⟨⟨first, own⟩, ih others⟩

theorem pair_ok {first second : Json → Reading Payload} {values : List Json} {closed : Bool}
    {payload : Payload} (accepted : pair first second values closed = .ok payload) :
    ∃ left right json json', payload = .pair left right ∧ first json = .ok left ∧
      second json' = .ok right := by
  match values with
  | [] => cases accepted
  | [json] =>
      obtain ⟨left, -, accepted⟩ := bind_eq_ok.mp accepted
      cases accepted
  | json :: json' :: rest =>
      obtain ⟨left, own, accepted⟩ := bind_eq_ok.mp accepted
      obtain ⟨right, own', accepted⟩ := bind_eq_ok.mp accepted
      split at accepted
      · cases accepted
        exact ⟨left, right, json, json', rfl, own, own'⟩
      · cases accepted

theorem slots_ok {below : Option Reader} {json : Json} {slots : Slots Payload}
    (accepted : Reader.slots below record json = .ok slots) :
    ∃ read, below = some read ∧
      (slots = Slots.vacant record.keys.length ∨
        ∃ index shape json payload, index < record.keys.length ∧
          record.shapes[index]? = some shape ∧ read shape json = .ok payload ∧
          slots = Slots.only record.keys.length index payload) := by
  cases json with
  | object entries closed =>
      cases below with
      | none => cases accepted
      | some read =>
          refine ⟨read, rfl, ?_⟩
          simp only [Reader.slots] at accepted
          rcases Slots.readEntries_ok accepted with
            vacant | ⟨index, json, payload, inside, own, only⟩
          · exact .inl vacant
          · split at own
            · rename_i shape shaped
              exact .inr ⟨index, shape, json, payload, inside, shaped, own, only⟩
            · cases own
  | _ => cases accepted

theorem unit_ok {json : Json} {payload : Payload} (accepted : unit json = .ok payload) :
    json = .null ∧ payload = .unit := by
  cases json with
  | null => cases accepted; exact ⟨rfl, rfl⟩
  | _ => cases accepted

theorem boolean_ok {json : Json} {payload : Payload} (accepted : boolean json = .ok payload) :
    ∃ value, payload = .boolean value := by
  cases json with
  | boolean value => cases accepted; exact ⟨value, rfl⟩
  | _ => cases accepted

theorem integer_ok {kind : IntegerKind} {json : Json} {payload : Payload}
    (accepted : integer kind json = .ok payload) :
    ∃ value, kind.contains value = true ∧ payload = .integer kind value := by
  unfold integer at accepted
  split at accepted
  · rename_i value
    split at accepted
    · rename_i fits
      cases accepted
      exact ⟨value, fits, rfl⟩
    · cases accepted
  · cases accepted

theorem float_ok {json : Json} {payload : Payload} (accepted : float json = .ok payload) :
    ∃ bits, payload = .float bits := by
  unfold float at accepted
  split at accepted
  · cases accepted
    exact ⟨_, rfl⟩
  · cases accepted
    exact ⟨_, rfl⟩
  · cases accepted

theorem text_ok {json : Json} {payload : Payload} (accepted : text json = .ok payload) :
    ∃ value, payload = .text value := by
  unfold text at accepted
  split at accepted
  · cases accepted
    exact ⟨_, rfl⟩
  · cases accepted

theorem list_ok {below : Option Reader} {item : Shape} {json : Json} {payload : Payload}
    (accepted : atLevel shapes below (.list item) json = .ok payload) :
    ∃ read payloads, below = some read ∧ payload = .list payloads ∧
      ∀ payload ∈ payloads, ∃ json, read item json = .ok payload := by
  rw [atLevel] at accepted
  cases json with
  | array values closed =>
      cases below with
      | none => cases accepted
      | some read =>
          obtain ⟨payloads, own, same⟩ := map_eq_ok.mp accepted
          exact ⟨read, payloads, rfl, same.symm, items_ok own⟩
  | _ => cases accepted

theorem optional_ok {below : Option Reader} {inner : Shape} {json : Json} {payload : Payload}
    (accepted : atLevel shapes below (.optional inner) json = .ok payload) :
    (json = .null ∧ payload = .optional none) ∨
      ∃ held, json ≠ .null ∧ payload = .optional (some held) ∧
        atLevel shapes below inner json = .ok held := by
  by_cases shown : json = .null
  · subst shown
    rw [atLevel] at accepted
    cases accepted
    exact .inl ⟨rfl, rfl⟩
  · rw [atLevel_optional shown] at accepted
    obtain ⟨held, own, same⟩ := map_eq_ok.mp accepted
    exact .inr ⟨held, shown, same.symm, own⟩

theorem atLevel_pair_ok {below : Option Reader} {first second : Shape} {json : Json}
    {payload : Payload} (accepted : atLevel shapes below (.pair first second) json = .ok payload) :
    ∃ read left right json json', below = some read ∧ payload = .pair left right ∧
      read first json = .ok left ∧ read second json' = .ok right := by
  rw [atLevel] at accepted
  cases json with
  | array values closed =>
      cases below with
      | none => cases accepted
      | some read =>
          obtain ⟨left, right, json, json', same, own, own'⟩ := pair_ok accepted
          exact ⟨read, left, right, json, json', rfl, same, own, own'⟩
  | _ => cases accepted

theorem record_ok {below : Option Reader} {name : String} {json : Json} {payload : Payload}
    (accepted : atLevel shapes below (.record name) json = .ok payload) :
    ∃ record held, shapes name = some record ∧ payload = .record record.keys held ∧
      slots below record json = .ok held := by
  rw [atLevel] at accepted
  cases found : shapes name with
  | none => simp [found] at accepted
  | some record =>
      rw [found] at accepted
      obtain ⟨held, own, same⟩ := map_eq_ok.mp accepted
      exact ⟨record, held, rfl, same.symm, own⟩

/-- Only nothing is written like nothing, after it has been read. -/
theorem json_ne_null {below : Option Reader} {shape : Shape} {json : Json} {payload : Payload}
    (accepted : atLevel shapes below shape json = .ok payload) (shown : json ≠ .null)
    (faithful : payload.IsFaithful) : payload.json ≠ .null := by
  induction shape generalizing payload with
  | unit => exact absurd (unit_ok accepted).1 shown
  | boolean =>
      obtain ⟨value, rfl⟩ := boolean_ok accepted
      simp [Payload.json]
  | integer kind =>
      obtain ⟨value, -, rfl⟩ := integer_ok accepted
      simp [Payload.json]
  | float =>
      obtain ⟨bits, rfl⟩ := float_ok accepted
      obtain ⟨-, magnitude, finite, -⟩ := faithful
      simp [Payload.json, Payload.floatJson, finite]
  | text =>
      obtain ⟨value, rfl⟩ := text_ok accepted
      simp [Payload.json]
  | list item =>
      obtain ⟨read, payloads, -, rfl, -⟩ := list_ok accepted
      simp [Payload.json]
  | optional inner ih =>
      rcases optional_ok accepted with ⟨nothing, -⟩ | ⟨held, -, rfl, own⟩
      · exact absurd nothing shown
      · rw [Payload.json]
        exact ih own faithful
  | pair first second =>
      obtain ⟨read, left, right, json, json', -, rfl, -⟩ := atLevel_pair_ok accepted
      simp [Payload.json]
  | record name =>
      obtain ⟨record, held, -, rfl, -⟩ := record_ok accepted
      rw [Payload.json_record]
      exact Slots.written_ne_null _ _

/-- Whatever is read is a settled payload, written with no more brackets than were open. -/
def Settles (shapes : Shapes) (depth : Nat) (read : Reader) : Prop :=
  ∀ shape json payload, read shape json = .ok payload → payload.IsFaithful →
    Settled shapes shape payload ∧ payload.json.brackets ≤ depth

theorem itemsBrackets_le {items : List Json} {depth : Nat}
    (each : ∀ item ∈ items, item.brackets ≤ depth) : Json.itemsBrackets items ≤ depth := by
  induction items with
  | nil => exact Nat.zero_le _
  | cons first rest ih =>
      rw [List.forall_mem_cons] at each
      exact Nat.max_le.mpr ⟨each.1, ih each.2⟩

theorem settles_record {name : String} {read : Reader} {depth : Nat} {held : Slots Payload}
    {json : Json} (settles : Settles shapes depth read)
    (found : shapes name = some record) (accepted : slots (some read) record json = .ok held)
    (faithful : (Payload.record record.keys held).IsFaithful) :
    Settled shapes (.record name) (.record record.keys held) ∧
      (held.json record.keys).brackets ≤ depth + 1 := by
  obtain ⟨read', same, vacant | ⟨index, shape, json, payload, inside, shaped, own, only⟩⟩ :=
    slots_ok accepted
  · subst vacant
    rw [Slots.json_of_allEmpty _ (Slots.vacant_allEmpty _)]
    exact ⟨.vacant found, by simp [Json.brackets, Json.entriesBrackets]⟩
  · subst only
    obtain rfl := Option.some.inj same
    have first := Slots.only_isFirst payload inside
    have inner := (Payload.slotsFaithful_iff _).mp faithful payload
      (List.mem_of_getElem? (Slots.isFirst_iff.mp first).1)
    obtain ⟨settled, shallow⟩ := settles shape json payload own inner
    rw [Slots.json_of_isFirst first (List.getElem?_eq_getElem inside)]
    refine ⟨.only found shaped settled, ?_⟩
    simpa [Json.brackets, Json.entriesBrackets] using shallow

/-- What is read in brackets settles one level below. -/
theorem settles_atLevel {below : Option Reader} {depth : Nat}
    (lower : ∀ read, below = some read → ∃ less, depth = less + 1 ∧ Settles shapes less read) :
    Settles shapes depth (atLevel shapes below) := by
  intro shape json payload accepted faithful
  induction shape generalizing payload with
  | unit =>
      obtain ⟨-, rfl⟩ := unit_ok accepted
      exact ⟨.unit, Nat.zero_le _⟩
  | boolean =>
      obtain ⟨value, rfl⟩ := boolean_ok accepted
      exact ⟨.boolean value, Nat.zero_le _⟩
  | integer kind =>
      obtain ⟨value, fits, rfl⟩ := integer_ok accepted
      exact ⟨.integer fits, Nat.zero_le _⟩
  | float =>
      obtain ⟨bits, rfl⟩ := float_ok accepted
      obtain ⟨-, magnitude, finite, -⟩ := faithful
      exact ⟨.float bits, by simp [Payload.json, Payload.floatJson, finite, Json.brackets]⟩
  | text =>
      obtain ⟨value, rfl⟩ := text_ok accepted
      exact ⟨.text value, Nat.zero_le _⟩
  | list item =>
      obtain ⟨read, payloads, rfl, rfl, each⟩ := list_ok accepted
      obtain ⟨less, rfl, settles⟩ := lower read rfl
      have settled (payload : Payload) (member : payload ∈ payloads) :
          Settled shapes item payload ∧ payload.json.brackets ≤ less := by
        obtain ⟨json, own⟩ := each payload member
        exact settles item json payload own ((Payload.areFaithful_iff _).mp faithful _ member)
      refine ⟨.list fun payload member => (settled payload member).1, ?_⟩
      rw [Payload.json, Payload.jsonEach_eq, Json.brackets, Nat.add_le_add_iff_right]
      refine itemsBrackets_le fun json member => ?_
      obtain ⟨payload, within, rfl⟩ := List.mem_map.mp member
      exact (settled payload within).2
  | optional inner ih =>
      rcases optional_ok accepted with ⟨-, rfl⟩ | ⟨held, shown, rfl, own⟩
      · exact ⟨.absent, Nat.zero_le _⟩
      · obtain ⟨settled, shallow⟩ := ih held own faithful
        exact ⟨.present settled (json_ne_null own shown faithful), by simpa [Payload.json]⟩
  | pair first second =>
      obtain ⟨read, left, right, json, json', rfl, rfl, own, own'⟩ := atLevel_pair_ok accepted
      obtain ⟨less, rfl, settles⟩ := lower read rfl
      obtain ⟨settled, shallow⟩ := settles first json left own faithful.1
      obtain ⟨settled', shallow'⟩ := settles second json' right own' faithful.2
      refine ⟨.pair settled settled', ?_⟩
      simp only [Payload.json, Json.brackets, Json.itemsBrackets]
      omega
  | record name =>
      obtain ⟨record, held, found, rfl, own⟩ := record_ok accepted
      obtain ⟨read, rfl, -⟩ := slots_ok own
      obtain ⟨less, rfl, settles⟩ := lower read rfl
      rw [Payload.json_record]
      exact settles_record settles found own faithful

theorem settles_nested (depth : Nat) : Settles shapes depth (nested shapes depth) := by
  induction depth with
  | zero => exact settles_atLevel fun read none => by cases none
  | succ depth ih =>
      refine settles_atLevel fun read same => ⟨depth, rfl, ?_⟩
      exact Option.some.inj same ▸ ih

end Reader

/-- A payload is read back from its own wire form, at some depth, if and only if it is settled. -/
theorem settled_iff {shapes : Shapes} {shape : Shape} {payload : Payload}
    (distinct : ∀ name record, shapes name = some record → record.IsDistinct)
    (faithful : payload.IsFaithful) :
    Settled shapes shape payload ↔
      ∃ depth, Reader.nested shapes depth shape payload.json = .ok payload := by
  constructor
  · intro settled
    exact ⟨_, settled.read distinct faithful _ (Nat.le_refl _)⟩
  · rintro ⟨depth, own⟩
    exact (Reader.settles_nested depth shape payload.json payload own faithful).1

end SlotSum
