import SlotSum.Proofs.Schema.Keys
import SlotSum.Proofs.Value.FirstOccupied
import SlotSum.Proofs.Wire.Scan
import SlotSum.Wire.Read

/-!
Payloads that come back from their wire forms. Whether one does depends on what is inside it: a
value with slots comes back only if it occupies at most one of them, and an optional only if what
it holds is not written like nothing. Numbers are taken one by one.
-/

namespace SlotSum

/-! ### Nesting -/

namespace Json

mutual

/-- How many brackets are open around the innermost parts. -/
def brackets : Json → Nat
  | null => 0
  | boolean _ => 0
  | number _ => 0
  | text _ => 0
  | array items _ => itemsBrackets items + 1
  | object entries _ => entriesBrackets entries + 1
  | broken => 0

def itemsBrackets : List Json → Nat
  | [] => 0
  | first :: rest => max first.brackets (itemsBrackets rest)

def entriesBrackets : List Entry → Nat
  | [] => 0
  | .mk _ value :: rest => max value.brackets (entriesBrackets rest)

end

theorem brackets_le_items {items : List Json} {item : Json} (member : item ∈ items) :
    item.brackets ≤ itemsBrackets items := by
  induction items with
  | nil => cases member
  | cons first rest ih =>
      rw [itemsBrackets]
      rcases List.mem_cons.mp member with rfl | member
      · exact Nat.le_max_left _ _
      · exact Nat.le_trans (ih member) (Nat.le_max_right _ _)

theorem brackets_le_entries {entries : List Entry} {entry : Entry} (member : entry ∈ entries) :
    entry.value.brackets ≤ entriesBrackets entries := by
  induction entries with
  | nil => cases member
  | cons first rest ih =>
      obtain ⟨key, value⟩ := first
      rw [entriesBrackets]
      rcases List.mem_cons.mp member with rfl | member
      · exact Nat.le_max_left _ _
      · exact Nat.le_trans (ih member) (Nat.le_max_right _ _)

end Json

/-! ### Payloads that come back -/

/-- Keys of the slots of a type, each with one shape. -/
structure RecordShape.IsDistinct (record : RecordShape) : Prop where
  keys : record.keys.Nodup
  shapes : record.shapes.length = record.keys.length

/-- A payload of a shape in which every value with slots occupies at most one, and no optional holds
what is written like nothing. -/
inductive Settled (shapes : Shapes) : Shape → Payload → Prop
  | unit : Settled shapes .unit .unit
  | boolean (value : Bool) : Settled shapes .boolean (.boolean value)
  | integer (fits : kind.contains value = true) :
      Settled shapes (.integer kind) (.integer kind value)
  | float (bits : Nat) : Settled shapes .float (.float bits)
  | text (value : String) : Settled shapes .text (.text value)
  | list (each : ∀ payload ∈ items, Settled shapes item payload) :
      Settled shapes (.list item) (.list items)
  | absent : Settled shapes (.optional held) (.optional none)
  | present (settled : Settled shapes held payload) (shown : payload.json ≠ .null) :
      Settled shapes (.optional held) (.optional (some payload))
  | pair (first : Settled shapes left payload) (second : Settled shapes right payload') :
      Settled shapes (.pair left right) (.pair payload payload')
  | vacant (found : shapes name = some record) :
      Settled shapes (.record name) (.record record.keys (Slots.vacant record.keys.length))
  | only (found : shapes name = some record) (shaped : record.shapes[index]? = some shape)
      (settled : Settled shapes shape payload) :
      Settled shapes (.record name)
        (.record record.keys (Slots.only record.keys.length index payload))

namespace Payload

/-- A finite float with a number that is read back from its own text. -/
def IsFaithfulFloat (bits : Nat) : Prop :=
  bits < 1 <<< 64 ∧ ∃ magnitude, Magnitude.ofBits (floatMagnitude bits) = some magnitude ∧
    (Number.fraction (bits ≠ floatMagnitude bits) magnitude).IsFaithful

mutual

/-- Every number inside is read back from its own text. -/
def IsFaithful : Payload → Prop
  | unit => True
  | boolean _ => True
  | integer _ value => (Number.integer value).IsFaithful
  | float bits => IsFaithfulFloat bits
  | text _ => True
  | list items => AreFaithful items
  | optional none => True
  | optional (some inner) => inner.IsFaithful
  | pair first second => first.IsFaithful ∧ second.IsFaithful
  | record _ slots => SlotsFaithful slots

def AreFaithful : List Payload → Prop
  | [] => True
  | first :: rest => first.IsFaithful ∧ AreFaithful rest

def SlotsFaithful : List (Option Payload) → Prop
  | [] => True
  | none :: rest => SlotsFaithful rest
  | some first :: rest => first.IsFaithful ∧ SlotsFaithful rest

end

theorem jsonEach_eq (items : List Payload) : jsonEach items = items.map json := by
  induction items with
  | nil => rfl
  | cons first rest ih => simp [jsonEach, ih]

theorem areFaithful_iff (items : List Payload) :
    AreFaithful items ↔ ∀ payload ∈ items, payload.IsFaithful := by
  induction items with
  | nil => simp [AreFaithful]
  | cons first rest ih => simp [AreFaithful, ih]

theorem slotsFaithful_iff (slots : List (Option Payload)) :
    SlotsFaithful slots ↔ ∀ payload, some payload ∈ slots → payload.IsFaithful := by
  induction slots with
  | nil => simp [SlotsFaithful]
  | cons first rest ih =>
      cases first with
      | none => simp [SlotsFaithful, ih]
      | some payload => simp [SlotsFaithful, ih]

theorem json_record (keys : List String) (slots : Slots Payload) :
    json (.record keys slots) = slots.json keys := by
  rw [json, jsonSlots_eq]
  rfl

end Payload

/-! ### Floats -/

theorem Magnitude.bits_of_ofBits {bits : Nat} {magnitude : Magnitude}
    (finite : Magnitude.ofBits bits = some magnitude) : magnitude.bits = bits := by
  simp only [Magnitude.ofBits, Nat.reduceShiftLeft] at finite
  split at finite
  · obtain rfl := Option.some.inj finite
    simp only [Magnitude.bits, Nat.reduceShiftLeft]
    rw [if_pos (by omega)]
    omega
  · split at finite
    · obtain rfl := Option.some.inj finite
      simp only [Magnitude.bits, Nat.reduceShiftLeft]
      rw [if_neg (by omega)]
      omega
    · cases finite

theorem Reader.float_floatJson {bits : Nat} (faithful : Payload.IsFaithfulFloat bits) :
    Reader.float (Payload.floatJson bits) = .ok (.float bits) := by
  obtain ⟨bound, magnitude, finite, -⟩ := faithful
  have back := Magnitude.bits_of_ofBits finite
  have split : floatMagnitude bits = bits % 0x8000000000000000 := rfl
  simp only [Nat.reduceShiftLeft] at bound
  simp only [Payload.floatJson, finite, Reader.float, Reader.signedBits, back, Nat.reduceShiftLeft]
  by_cases low : bits = floatMagnitude bits
  · simp [← low]
  · simp only [ne_eq, low, not_false_eq_true, decide_true, if_true, Except.ok.injEq,
      Payload.float.injEq]
    omega

/-! ### Reading what was written -/

theorem Slots.readEntries_sole {keys : List String} {read : Nat → Json → Reading α} {index : Nat}
    {key : String} {json : Json} {payload : α} (distinct : keys.Nodup)
    (keyed : keys[index]? = some key) (own : read index json = .ok payload) :
    Slots.readEntries keys read [.mk (some key) json] true =
      .ok (Slots.only keys.length index payload) := by
  simp [Slots.readEntries, Entry.key, Entry.value, idxOf?_of_nodup distinct keyed, own,
    Entry.finish, bind, Except.bind, pure, Except.pure]

namespace Reader

/-- What reads the parts in brackets, where that many more may be open. -/
def below (shapes : Shapes) : Nat → Option Reader
  | 0 => none
  | depth + 1 => some (nested shapes depth)

theorem nested_eq (shapes : Shapes) (depth : Nat) :
    nested shapes depth = atLevel shapes (below shapes depth) := by
  cases depth <;> rfl

theorem items_map {read : Json → Reading Payload} {payloads : List Payload}
    (each : ∀ payload ∈ payloads, read payload.json = .ok payload) :
    items read (payloads.map Payload.json) true = .ok payloads := by
  induction payloads with
  | nil => rfl
  | cons first rest ih =>
      rw [List.forall_mem_cons] at each
      simp only [List.map_cons, items, each.1, ih each.2]
      rfl

variable {shapes : Shapes} {record : RecordShape}

theorem atLevel_optional {below : Option Reader} {inner : Shape} {json : Json}
    (shown : json ≠ .null) :
    atLevel shapes below (.optional inner) json =
      (atLevel shapes below inner json).map fun payload => .optional (some payload) := by
  rw [atLevel]
  cases json with
  | null => exact absurd rfl shown
  | _ => rfl

theorem slots_only {read : Reader} {index : Nat} {key : String} {shape : Shape} {json : Json}
    {payload : Payload} (distinct : record.IsDistinct) (keyed : record.keys[index]? = some key)
    (shaped : record.shapes[index]? = some shape) (own : read shape json = .ok payload) :
    slots (some read) record (.object [.mk (some key) json] true) =
      .ok (Slots.only record.keys.length index payload) := by
  rw [slots]
  refine Slots.readEntries_sole distinct.keys keyed ?_
  simp only [shaped, own]

theorem slots_vacant (read : Reader) :
    slots (some read) record (.object [] true) = .ok (Slots.vacant record.keys.length) := by
  simp [slots, Slots.readEntries]

end Reader

/-- A settled payload is read back from its wire form, as long as not too many brackets are open. -/
theorem Settled.read {shapes : Shapes} {shape : Shape} {payload : Payload}
    (distinct : ∀ name record, shapes name = some record → record.IsDistinct)
    (settled : Settled shapes shape payload) (faithful : payload.IsFaithful) (depth : Nat)
    (shallow : payload.json.brackets ≤ depth) :
    Reader.nested shapes depth shape payload.json = .ok payload := by
  induction settled generalizing depth with
  | unit => rw [Reader.nested_eq]; simp [Reader.atLevel, Payload.json, Reader.unit]
  | boolean value => rw [Reader.nested_eq]; simp [Reader.atLevel, Payload.json, Reader.boolean]
  | integer fits => rw [Reader.nested_eq]; simp [Reader.atLevel, Payload.json, Reader.integer, fits]
  | float bits =>
      rw [Reader.nested_eq, Payload.json, Reader.atLevel]
      exact Reader.float_floatJson faithful
  | text value => rw [Reader.nested_eq]; simp [Reader.atLevel, Payload.json, Reader.text]
  | list each ih =>
      rw [Payload.json, Payload.jsonEach_eq] at shallow ⊢
      cases depth with
      | zero => simp [Json.brackets] at shallow
      | succ depth =>
          rw [Json.brackets, Nat.add_le_add_iff_right] at shallow
          have own := Reader.items_map fun payload member =>
            ih payload member ((Payload.areFaithful_iff _).mp faithful payload member) depth
              (Nat.le_trans (Json.brackets_le_items (List.mem_map_of_mem member)) shallow)
          rw [Reader.nested, Reader.atLevel]
          simp only [own]
          rfl
  | absent => rw [Reader.nested_eq]; simp [Reader.atLevel, Payload.json]
  | present settled shown ih =>
      have own := ih faithful depth shallow
      rw [Reader.nested_eq] at own ⊢
      rw [Payload.json, Reader.atLevel_optional shown, own]
      rfl
  | pair first second ih ih' =>
      rw [Payload.json] at shallow ⊢
      cases depth with
      | zero => simp [Json.brackets] at shallow
      | succ depth =>
          simp only [Json.brackets, Json.itemsBrackets, Nat.add_le_add_iff_right] at shallow
          have own := ih faithful.1 depth (by omega)
          have own' := ih' faithful.2 depth (by omega)
          rw [Reader.nested, Reader.atLevel]
          simp [Reader.pair, own, own', bind, Except.bind]
  | @vacant name record found =>
      rw [Payload.json_record, Slots.json_of_allEmpty _ (Slots.vacant_allEmpty _)] at shallow ⊢
      cases depth with
      | zero => simp [Json.brackets] at shallow
      | succ depth =>
          rw [Reader.nested, Reader.atLevel]
          simp only [found, Reader.slots_vacant]
          rfl
  | @only name record index shape payload found shaped settled ih =>
      have fit := (distinct name record found).shapes
      have inside : index < record.keys.length := by
        rw [← fit]
        exact (List.getElem?_eq_some_iff.mp shaped).1
      have keyed := List.getElem?_eq_getElem inside
      have first := Slots.only_isFirst payload inside
      rw [Payload.json_record, Slots.json_of_isFirst first keyed] at shallow ⊢
      cases depth with
      | zero => simp [Json.brackets] at shallow
      | succ depth =>
          simp only [Json.brackets, Json.entriesBrackets, Nat.add_le_add_iff_right] at shallow
          have inner : payload.IsFaithful := (Payload.slotsFaithful_iff _).mp faithful payload
            (List.mem_of_getElem? (Slots.isFirst_iff.mp first).1)
          have own := ih inner depth (by omega)
          rw [Reader.nested, Reader.atLevel]
          simp only [found, Reader.slots_only (distinct name record found) keyed shaped own]
          rfl

/-! ### Faithful wire forms -/

theorem Slots.isFaithful_written (keys : List String) {slots : Slots Json}
    (each : ∀ json, some json ∈ slots → json.IsFaithful) :
    (Slots.written keys slots).IsFaithful := by
  have empty : (Json.object [] true).IsFaithful := ⟨trivial, rfl⟩
  induction slots generalizing keys with
  | nil => cases keys <;> simpa only [Slots.written] using empty
  | cons slot rest ih =>
      cases keys with
      | nil => simpa only [Slots.written] using empty
      | cons key more =>
          cases slot with
          | some json => exact ⟨⟨⟨rfl, each json (by simp)⟩, trivial⟩, rfl⟩
          | none => exact ih more fun json member => each json (by simp [member])

mutual

/-- The wire form of a payload is as faithful as the numbers in it. -/
theorem Payload.isFaithful_json : (payload : Payload) → payload.IsFaithful →
    payload.json.IsFaithful
  | .unit, _ => trivial
  | .boolean _, _ => trivial
  | .integer .., faithful => faithful
  | .float bits, ⟨_, magnitude, finite, faithful⟩ => by
      simp only [Payload.json, Payload.floatJson, finite]
      exact faithful
  | .text _, _ => rfl
  | .list contents, faithful => ⟨Payload.areFaithful_json contents faithful, rfl⟩
  | .optional none, _ => trivial
  | .optional (some inner), faithful => inner.isFaithful_json faithful
  | .pair first second, ⟨faithful, faithful'⟩ =>
    ⟨⟨first.isFaithful_json faithful, second.isFaithful_json faithful', trivial⟩, rfl⟩
  | .record keys held, faithful =>
    Slots.isFaithful_written keys (Payload.slotsFaithful_json held faithful)

theorem Payload.areFaithful_json : (payloads : List Payload) → Payload.AreFaithful payloads →
    Json.AreFaithful (Payload.jsonEach payloads)
  | [], _ => trivial
  | first :: rest, ⟨faithful, each⟩ =>
    ⟨first.isFaithful_json faithful, Payload.areFaithful_json rest each⟩

theorem Payload.slotsFaithful_json : (held : List (Option Payload)) →
    Payload.SlotsFaithful held → ∀ json, some json ∈ Payload.jsonSlots held → json.IsFaithful
  | [], _ => by simp [Payload.jsonSlots]
  | none :: rest, each => by
      simpa [Payload.jsonSlots] using Payload.slotsFaithful_json rest each
  | some first :: rest, ⟨faithful, each⟩ => by
      simpa [Payload.jsonSlots] using
        ⟨first.isFaithful_json faithful, Payload.slotsFaithful_json rest each⟩

end

end SlotSum
