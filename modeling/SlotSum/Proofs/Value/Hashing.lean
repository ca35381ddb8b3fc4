import SlotSum.Proofs.Value.Equality
import SlotSum.Value.Shape

/-!
Hashing agrees with equality. Two equal values in different places occupy one and the same slot, so
they feed the same zero bytes around their payloads, and what payloads feed is theirs to answer for:
equal ones of one type have to feed the same bytes, and may rely on it for the values in them.
-/

namespace SlotSum

namespace Slots

/-- Slots of values of one type: there are as many, and payloads of one slot are of one type. -/
structure OfOneType (kin : α → α → Prop) (left right : Slots α) : Prop where
  length : left.length = right.length
  payloads : ∀ (index : Nat) (payload payload' : α), left[index]? = some (some payload) →
    right[index]? = some (some payload') → kin payload payload'

variable {slots left right : Slots α} {index : Nat} {payload : α} {kin : α → α → Prop}
  {equal : α → α → Bool} {feed : α → List UInt8}

/-- The only occupied slot and the number of slots are all that there is to know. -/
theorem IsSole.eq_only (sole : slots.IsSole index payload) :
    slots = only slots.length index payload := by
  refine List.ext_getElem (by simp [only]) fun other bound _ => ?_
  have here : slots[other]? = some slots[other] := List.getElem?_eq_getElem bound
  by_cases place : other = index
  · subst place
    have found : slots[other] = some payload := by simpa [here] using sole.1
    simp [only, found]
  · have empty := sole.2 other slots[other] here place
    simp [only, place, empty]

theorem transform_only (change : α → β) (count index : Nat) (payload : α) :
    (only count index payload).transform change = only count index (change payload) := by
  simp only [transform, only, List.map_map]
  refine List.map_congr_left fun other _ => ?_
  by_cases place : other = index
  · simp [place]
  · simp [place]

/-- Equal slots feed the same bytes if their payloads do. -/
theorem bytes_of_same (oneType : left.OfOneType kin right)
    (law : ∀ payload, some payload ∈ left → ∀ other, kin payload other →
      equal payload other = true → feed payload = feed other)
    (same : Slots.same equal left right = true) : left.bytes feed = right.bytes feed := by
  obtain ⟨index, payload, payload', sole, sole', equality⟩ := same_iff.mp same
  have related : kin payload payload' := oneType.payloads index payload payload' sole.1 sole'.1
  have fed : feed payload = feed payload' := law payload sole.mem payload' related equality
  have transformed : left.transform feed = right.transform feed := by
    rw [sole.eq_only, sole'.eq_only, transform_only, transform_only, fed, oneType.length]
  rw [bytes, bytes, transformed]

end Slots

namespace Nesting

/-- Equal payloads of one type feed the same bytes once the values in them do, be it that those are
one instance or that they are compared. -/
def Feeds (nesting : Nesting α) (kin : α → α → Prop) (same : α → α → Bool)
    (feed : α → List UInt8) : Prop :=
  ∀ payload,
    (∀ slots ∈ nesting.inside payload, ∀ other : Slots α, slots.OfOneType kin other →
      slots = other ∨ Slots.same same slots other = true →
        slots.bytes feed = other.bytes feed) →
    ∀ other, kin payload other → same payload other = true → feed payload = feed other

variable {nesting : Nesting α} {kin : α → α → Prop} {same : α → α → Bool}
  {feed : α → List UInt8}

theorem Feeds.agrees (feeds : nesting.Feeds kin same feed) (payload other : α)
    (related : kin payload other) (equal : same payload other = true) :
    feed payload = feed other := by
  -- on what is held, as equality itself goes down
  induction payload using nesting.founded.induction generalizing other with
  | _ payload ih =>
      refine feeds payload (fun slots member other oneType compared => ?_) other related equal
      rcases compared with rfl | equal
      · rfl
      · exact Slots.bytes_of_same oneType
          (fun held inside => ih held ⟨slots, member, inside⟩) equal

end Nesting

namespace Payload

/-- The payloads of a shape. -/
inductive HasShape (shapes : Shapes) : Shape → Payload → Prop
  | unit : HasShape shapes .unit .unit
  | boolean (value : Bool) : HasShape shapes .boolean (.boolean value)
  | integer (inside : kind.contains value) : HasShape shapes (.integer kind) (.integer kind value)
  | float (bits : Nat) : HasShape shapes .float (.float bits)
  | text (value : String) : HasShape shapes .text (.text value)
  | list (each : ∀ payload ∈ items, HasShape shapes item payload) :
      HasShape shapes (.list item) (.list items)
  | absent {inner : Shape} : HasShape shapes (.optional inner) (.optional none)
  | present {inner : Shape} (held : HasShape shapes inner payload) :
      HasShape shapes (.optional inner) (.optional (some payload))
  | pair (one : HasShape shapes left first) (two : HasShape shapes right second) :
      HasShape shapes (.pair left right) (.pair first second)
  | record {type : RecordShape} {slots : Slots Payload} (found : shapes name = some type)
      (length : slots.length = type.shapes.length)
      (each : ∀ (index : Nat) shape payload, type.shapes[index]? = some shape →
        slots[index]? = some (some payload) → HasShape shapes shape payload) :
      HasShape shapes (.record name) (.record type.keys slots)

/-- Payloads of one shape. -/
def OfOneShape (shapes : Shapes) (payload other : Payload) : Prop :=
  ∃ shape, HasShape shapes shape payload ∧ HasShape shapes shape other

variable {shapes : Shapes}

theorem length_of_agreeEach : {items items' : List Payload} →
    agreeEach (items.map same) items' = true → items.length = items'.length
  | [], [], _ => rfl
  | _ :: _, _ :: _, agree => by
      simp only [List.map_cons, agreeEach, Bool.and_eq_true] at agree
      simp [length_of_agreeEach agree.2]

theorem bytesEach_of_agreeEach : {items items' : List Payload} →
    (∀ item ∈ items, ∀ other, OfOneShape shapes item other → item.same other = true →
      item.bytes = other.bytes) →
    (∀ item ∈ items, ∀ other ∈ items', OfOneShape shapes item other) →
    agreeEach (items.map same) items' = true → bytesEach items = bytesEach items'
  | [], [], _, _, _ => rfl
  | first :: rest, first' :: rest', law, related, agree => by
      simp only [List.map_cons, agreeEach, Bool.and_eq_true] at agree
      have here : first.bytes = first'.bytes :=
        law first (.head _) first' (related first (.head _) first' (.head _)) agree.1
      have there : bytesEach rest = bytesEach rest' :=
        bytesEach_of_agreeEach (fun item member => law item (.tail _ member))
          (fun item member other member' => related item (.tail _ member) other (.tail _ member'))
          agree.2
      rw [bytesEach, bytesEach, here, there]

theorem OfOneShape.items {items items' : List Payload}
    (related : OfOneShape shapes (.list items) (.list items')) :
    ∀ item ∈ items, ∀ other ∈ items', OfOneShape shapes item other := by
  obtain ⟨shape, left, right⟩ := related
  cases left with
  | list each =>
      cases right with
      | list each' => exact fun item member other member' => ⟨_, each item member, each' other member'⟩

theorem OfOneShape.inner {inner inner' : Payload}
    (related : OfOneShape shapes (.optional (some inner)) (.optional (some inner'))) :
    OfOneShape shapes inner inner' := by
  obtain ⟨shape, left, right⟩ := related
  cases left with
  | present held =>
      cases right with
      | present held' => exact ⟨_, held, held'⟩

theorem OfOneShape.both {first first' second second' : Payload}
    (related : OfOneShape shapes (.pair first second) (.pair first' second')) :
    OfOneShape shapes first first' ∧ OfOneShape shapes second second' := by
  obtain ⟨shape, left, right⟩ := related
  cases left with
  | pair one two =>
      cases right with
      | pair one' two' => exact ⟨⟨_, one, one'⟩, ⟨_, two, two'⟩⟩

/-- Slots whose payloads have the shapes of a type. -/
structure HasShapes (shapes : Shapes) (type : RecordShape) (slots : Slots Payload) : Prop where
  length : slots.length = type.shapes.length
  each : ∀ (index : Nat) shape payload, type.shapes[index]? = some shape →
    slots[index]? = some (some payload) → HasShape shapes shape payload

theorem HasShapes.ofOneType {type : RecordShape} {slots slots' : Slots Payload}
    (left : HasShapes shapes type slots) (right : HasShapes shapes type slots') :
    slots.OfOneType (OfOneShape shapes) slots' where
  length := left.length.trans right.length.symm
  payloads index payload payload' here here' := by
    have bound := (List.getElem?_eq_some_iff.mp here).1
    rw [left.length] at bound
    have shaped := List.getElem?_eq_getElem bound
    exact ⟨_, left.each index _ payload shaped here, right.each index _ payload' shaped here'⟩

/-- Records of one shape hold values of one type. -/
theorem OfOneShape.slots {keys keys' : List String} {slots slots' : Slots Payload}
    (related : OfOneShape shapes (.record keys slots) (.record keys' slots')) :
    slots.OfOneType (OfOneShape shapes) slots' := by
  obtain ⟨shape, left, right⟩ := related
  cases left with
  | record found length each =>
      cases right with
      | record found' length' each' =>
          obtain rfl := Option.some.inj (found.symm.trans found')
          exact HasShapes.ofOneType ⟨length, each⟩ ⟨length', each'⟩

/-- Payloads of one shape that are equal feed the same bytes. -/
theorem bytes_of_same (payload other : Payload) (related : OfOneShape shapes payload other)
    (equal : payload.same other = true) : payload.bytes = other.bytes := by
  induction payload using induction generalizing other with
  | step payload ih =>
      cases payload with
      | list items =>
          obtain ⟨items', rfl, each⟩ := same_list_iff.mp equal
          have fed : bytesEach items = bytesEach items' :=
            bytesEach_of_agreeEach ih related.items each
          rw [bytes, bytes, fed, length_of_agreeEach each]
      | optional inner =>
          cases inner with
          | none =>
              rw [same_plain_iff rfl (by simp) (by simp)] at equal
              rw [equal]
          | some inner =>
              obtain ⟨inner', rfl, held⟩ := same_some_iff.mp equal
              rw [bytes, bytes, ih inner (.head _) inner' related.inner held]
      | pair first second =>
          obtain ⟨first', second', rfl, one, two⟩ := same_pair_iff.mp equal
          rw [bytes, bytes, ih first (.head _) first' related.both.1 one,
            ih second (.tail _ (.head _)) second' related.both.2 two]
      | record keys slots =>
          obtain ⟨keys', slots', rfl, sole⟩ := same_record_iff.mp equal
          rw [bytes, bytes, bytesSlots_eq, bytesSlots_eq]
          exact Slots.bytes_of_same related.slots
            (fun held inside => ih held (by simpa [parts] using inside)) sole
      | float bits =>
          obtain ⟨bits', rfl, -⟩ := same_float_iff.mp equal
          rw [bytes, bytes]
      | unit | boolean | integer | text =>
          rw [same_plain_iff rfl (by simp) (by simp)] at equal
          rw [equal]

/-- Equal payloads of one shape feed the same bytes, lists and pairs of values included. -/
theorem nesting_feeds (shapes : Shapes) : nesting.Feeds (OfOneShape shapes) same bytes := by
  intro payload values other related equal
  cases payload with
  | record keys slots =>
      obtain ⟨keys', slots', rfl, sole⟩ := same_record_iff.mp equal
      rw [bytes, bytes, bytesSlots_eq, bytesSlots_eq]
      exact values slots (.head _) slots' related.slots (.inr sole)
  | _ => exact bytes_of_same _ _ related equal

end Payload

/-- Values of one type that are equal feed the same bytes to a hasher, whatever they hold, if equal
payloads do, as far as they hold no values of the type itself. -/
theorem hashing_agrees [DecidableEq ι] {nesting : Nesting α} {kin : α → α → Prop}
    {same : α → α → Bool} {feed : α → List UInt8} {store : ι → Value α β}
    (feeds : nesting.Feeds kin same feed)
    (oneType : ∀ a b, (store a).slots.OfOneType kin (store b).slots) {a b : ι}
    (equal : equalIn same store a b = true) :
    (store a).slots.bytes feed = (store b).slots.bytes feed := by
  rcases equalIn_iff.mp equal with rfl | equal
  · rfl
  · exact Slots.bytes_of_same (oneType a b) (fun payload _ => feeds.agrees payload) equal

/-- A number, or the negation of one of these. -/
def negationShape : RecordShape :=
  ⟨["literal", "negated"], [.integer ⟨true, 8⟩, .record "Negation"]⟩

def negationShapes : Shapes
  | "Negation" => some negationShape
  | _ => none

theorem negation_hasShapes (literal negated : Option Payload)
    (number : ∀ payload ∈ literal, Payload.HasShape negationShapes (.integer ⟨true, 8⟩) payload)
    (inner : ∀ payload ∈ negated, Payload.HasShape negationShapes (.record "Negation") payload) :
    Payload.HasShapes negationShapes negationShape [literal, negated] where
  length := rfl
  each index shape payload shaped found := by
    match index with
    | 0 =>
        obtain rfl : Shape.integer ⟨true, 8⟩ = shape := by simpa [negationShape] using shaped
        exact number payload (by simpa using found)
    | 1 =>
        obtain rfl : Shape.record "Negation" = shape := by simpa [negationShape] using shaped
        exact inner payload (by simpa using found)
    | _ + 2 => simp at found

theorem negations_hasShapes (a : Nat) :
    Payload.HasShapes negationShapes negationShape (negations a).slots := by
  have number : Payload.HasShape negationShapes (.integer ⟨true, 8⟩) (.integer ⟨true, 8⟩ 1) :=
    .integer (by decide)
  have literal := negation_hasShapes (some _) none (by simpa using number) (by simp)
  have one : Payload.HasShape negationShapes (.record "Negation") negations.one :=
    .record rfl literal.length literal.each
  match a with
  | 0 | 1 => exact negation_hasShapes none _ (by simp) (by simpa using one)
  | 2 => exact negation_hasShapes _ _ (by simpa using number) (by simpa using one)
  | _ + 3 => exact negation_hasShapes none none (by simp) (by simp)

theorem hashing_agrees_negations :
    (negations 0).extra ≠ (negations 1).extra ∧
      (negations 0).slots.bytes Payload.bytes = [0, 1, 0, 0, 0, 0, 0, 0, 0, 0] ∧
      (negations 0).slots.bytes Payload.bytes = (negations 1).slots.bytes Payload.bytes :=
  ⟨by decide, by decide, hashing_agrees (Payload.nesting_feeds negationShapes)
    (fun a b => (negations_hasShapes a).ofOneType (negations_hasShapes b)) (by decide)⟩

end SlotSum
