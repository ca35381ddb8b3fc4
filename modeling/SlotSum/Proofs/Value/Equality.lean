import SlotSum.Value.Payload

/-!
Equality of values that live somewhere. A value equals itself whatever it holds; two values in
different places are equal just if both occupy one and the same slot and no other, with payloads
that are equal. This is an equivalence as soon as equality of payloads is symmetric and transitive,
and payloads that hold values of the same type inherit both from what else they hold.
-/

namespace SlotSum

namespace Slots

/-- The slot is occupied, and no other one is. -/
def IsSole (slots : Slots α) (index : Nat) (payload : α) : Prop :=
  slots[index]? = some (some payload) ∧
    ∀ other slot, slots[other]? = some slot → other ≠ index → slot = none

variable {slots left right : Slots α} {index : Nat} {payload : α} {equal : α → α → Bool}

theorem IsSole.mem (sole : slots.IsSole index payload) : some payload ∈ slots :=
  List.mem_of_getElem? sole.1

theorem IsSole.unique {index' : Nat} {payload' : α} (sole : slots.IsSole index payload)
    (sole' : slots.IsSole index' payload') : index = index' ∧ payload = payload' := by
  have place : index = index' := by
    by_cases same : index = index'
    · exact same
    · have empty := sole'.2 index (some payload) sole.1 same
      cases empty
  subst place
  have found := sole.1.symm.trans sole'.1
  exact ⟨rfl, by simpa using found⟩

theorem othersVacant_iff :
    slots.othersVacant index = true ↔
      ∀ other slot, slots[other]? = some slot → other ≠ index → slot = none := by
  simp only [othersVacant, List.all_eq_true, Bool.or_eq_true, decide_eq_true_eq,
    Option.isNone_iff_eq_none]
  constructor
  · intro each other slot found differ
    rcases each (slot, other) (List.mem_zipIdx_iff_getElem?.mpr found) with same | empty
    · exact absurd same differ
    · exact empty
  · intro each pair member
    by_cases same : pair.2 = index
    · exact .inl same
    · exact .inr (each pair.2 pair.1 (List.mem_zipIdx_iff_getElem?.mp member) same)

theorem othersVacant_iff_payloadAt :
    slots.othersVacant index = true ↔ ∀ place ≠ index, slots.payloadAt place = none := by
  rw [othersVacant_iff]
  constructor
  · intro each place apart
    cases held : slots[place]? with
    | none => simp [payloadAt, held]
    | some slot => simp [payloadAt, held, each place slot held apart]
  · intro each place slot held apart
    simpa [payloadAt, held] using each place apart

theorem map_payloadAt (slots : Slots α) :
    (List.range slots.length).map slots.payloadAt = slots := by
  refine List.ext_getElem (by simp) fun place _ inside => ?_
  simp [payloadAt, inside]

@[simp] theorem payloadAt_transform (change : α → β) :
    (slots.transform change).payloadAt index = (slots.payloadAt index).map change := by
  simp only [payloadAt, transform, List.getElem?_map]
  cases slots[index]? <;> rfl

@[simp] theorem othersVacant_transform (change : α → β) :
    (slots.transform change).othersVacant index = slots.othersVacant index := by
  rw [Bool.eq_iff_iff, othersVacant_iff_payloadAt, othersVacant_iff_payloadAt]
  simp

theorem isSole_iff :
    slots.IsSole index payload ↔
      slots.payloadAt index = some payload ∧ slots.othersVacant index = true := by
  rw [othersVacant_iff, IsSole, payloadAt, Option.join_eq_some_iff]

theorem isSole_transform {change : α → β} {result : β} :
    (slots.transform change).IsSole index result ↔
      ∃ payload, slots.IsSole index payload ∧ change payload = result := by
  have place (other : Nat) :
      (slots.transform change)[other]? = (slots[other]?).map (Option.map change) := by
    simp [transform]
  simp only [IsSole, place]
  constructor
  · rintro ⟨found, empty⟩
    obtain ⟨slot, here, changed⟩ := Option.map_eq_some_iff.mp found
    obtain ⟨payload, rfl, same⟩ := Option.map_eq_some_iff.mp changed
    refine ⟨payload, ⟨here, fun other slot there differ => ?_⟩, same⟩
    have none := empty other (slot.map change) (by rw [there]; rfl) differ
    simpa using none
  · rintro ⟨payload, ⟨here, empty⟩, rfl⟩
    refine ⟨by rw [here]; rfl, fun other slot there differ => ?_⟩
    obtain ⟨held, there', rfl⟩ := Option.map_eq_some_iff.mp there
    rw [empty other held there' differ]
    rfl

theorem agreementAt_eq_some_iff {checks : Slots (α → Bool)} {verdict : Bool} :
    agreementAt checks right index = some verdict ↔
      ∃ check payload, checks.IsSole index check ∧ right.IsSole index payload ∧
        check payload = verdict := by
  simp only [agreementAt, isSole_iff]
  cases checks.payloadAt index with
  | none => simp
  | some check =>
      cases right.payloadAt index with
      | none => simp
      | some payload =>
          by_cases alone : checks.othersVacant index = true ∧ right.othersVacant index = true
          · simp [alone.1, alone.2]
          · simp [alone]
            grind

theorem agreementAt_transform_iff {verdict : Bool} :
    agreementAt (left.transform equal) right index = some verdict ↔
      ∃ payload payload', left.IsSole index payload ∧ right.IsSole index payload' ∧
        equal payload payload' = verdict := by
  rw [agreementAt_eq_some_iff]
  constructor
  · rintro ⟨check, payload', checked, sole', decided⟩
    obtain ⟨payload, sole, rfl⟩ := isSole_transform.mp checked
    exact ⟨payload, payload', sole, sole', decided⟩
  · rintro ⟨payload, payload', sole, sole', decided⟩
    exact ⟨_, payload', isSole_transform.mpr ⟨payload, sole, rfl⟩, sole', decided⟩

theorem lt_length_of_agreementAt {verdict : Bool}
    (decided : agreementAt (left.transform equal) right index = some verdict) :
    index < (left.transform equal).length := by
  obtain ⟨payload, -, sole, -⟩ := agreementAt_transform_iff.mp decided
  have inside := (List.getElem?_eq_some_iff.mp sole.1).1
  simpa [transform] using inside

/-- Values are equal just if one slot is the only one that is occupied in either of them, and its
payloads are equal. -/
theorem same_iff :
    Slots.same equal left right = true ↔
      ∃ index payload payload', left.IsSole index payload ∧ right.IsSole index payload' ∧
        equal payload payload' = true := by
  rw [same, agree]
  cases found : (List.range (left.transform equal).length).findSome?
      (agreementAt (left.transform equal) right) with
  | none =>
      simp only [Option.getD_none, Bool.false_eq_true, false_iff]
      rintro ⟨index, agrees⟩
      have decided := agreementAt_transform_iff.mpr agrees
      have inside := List.mem_range.mpr (lt_length_of_agreementAt decided)
      rw [List.findSome?_eq_none_iff.mp found index inside] at decided
      cases decided
  | some verdict =>
      obtain ⟨index, -, decided⟩ := List.exists_of_findSome?_eq_some found
      obtain ⟨payload, payload', sole, sole', equality⟩ := agreementAt_transform_iff.mp decided
      simp only [Option.getD_some]
      constructor
      · rintro rfl
        exact ⟨index, payload, payload', sole, sole', equality⟩
      · rintro ⟨index', other, other', here, here', equality'⟩
        -- only one slot can be the only one, so the first that decides is the one that is meant
        obtain ⟨-, rfl⟩ := sole.unique here
        obtain ⟨-, rfl⟩ := sole'.unique here'
        exact equality.symm.trans equality'

theorem same_symm
    (symmetric : ∀ payload, some payload ∈ left → ∀ other, equal payload other = true →
      equal other payload = true)
    (same : Slots.same equal left right = true) : Slots.same equal right left = true := by
  rw [same_iff] at same ⊢
  obtain ⟨index, payload, payload', sole, sole', equality⟩ := same
  exact ⟨index, payload', payload, sole', sole, symmetric payload sole.mem payload' equality⟩

theorem same_trans {middle : Slots α}
    (transitive : ∀ payload, some payload ∈ left → ∀ second third,
      equal payload second = true → equal second third = true → equal payload third = true)
    (first : Slots.same equal left middle = true) (second : Slots.same equal middle right = true) :
    Slots.same equal left right = true := by
  rw [same_iff] at first second ⊢
  obtain ⟨index, payload, payload', sole, sole', equality⟩ := first
  obtain ⟨index', other, payload'', here, here', equality'⟩ := second
  obtain ⟨rfl, rfl⟩ := sole'.unique here
  exact ⟨index, payload, payload'', sole, here',
    transitive payload sole.mem _ _ equality equality'⟩

end Slots

/-! ### Payloads that hold values of the owner -/

/-- The values of the owner that a payload holds, in boxes, lists or whatever. None holds itself. -/
structure Nesting (α : Type) where
  inside : α → List (Slots α)
  founded : WellFounded fun held payload => ∃ slots ∈ inside payload, some held ∈ slots

namespace Nesting

/-- Equality of payloads is symmetric and transitive once that of the values in them is. A payload
that holds no such value gets no help. -/
structure Inherits (nesting : Nesting α) (same : α → α → Bool) : Prop where
  symmetric : ∀ payload,
    (∀ slots ∈ nesting.inside payload, ∀ other, Slots.same same slots other = true →
      Slots.same same other slots = true) →
    ∀ other, same payload other = true → same other payload = true
  transitive : ∀ payload,
    (∀ slots ∈ nesting.inside payload, ∀ second third, Slots.same same slots second = true →
      Slots.same same second third = true → Slots.same same slots third = true) →
    ∀ second third, same payload second = true → same second third = true →
      same payload third = true

variable {nesting : Nesting α} {same : α → α → Bool}

theorem Inherits.symm (inherits : nesting.Inherits same) (payload other : α)
    (equal : same payload other = true) : same other payload = true := by
  -- on what is held: the law for a payload needs it for the values inside, so for what they hold
  induction payload using nesting.founded.induction generalizing other with
  | _ payload ih =>
      refine inherits.symmetric payload (fun slots member other => ?_) other equal
      exact Slots.same_symm fun held inside => ih held ⟨slots, member, inside⟩

theorem Inherits.trans (inherits : nesting.Inherits same) (payload second third : α)
    (equal : same payload second = true) (equal' : same second third = true) :
    same payload third = true := by
  induction payload using nesting.founded.induction generalizing second third with
  | _ payload ih =>
      refine inherits.transitive payload (fun slots member second third => ?_) second third
        equal equal'
      exact Slots.same_trans fun held inside => ih held ⟨slots, member, inside⟩

end Nesting

/-! ### Values in a store -/

def equalIn [DecidableEq ι] (same : α → α → Bool) (store : ι → Value α β) (a b : ι) : Bool :=
  Placed.equal same ⟨a, store a⟩ ⟨b, store b⟩

section

variable [DecidableEq ι] {same : α → α → Bool} {store : ι → Value α β} {a b c : ι}

theorem equalIn_iff :
    equalIn same store a b = true ↔
      a = b ∨ Slots.same same (store a).slots (store b).slots = true := by
  simp [equalIn, Placed.equal]

variable (same store) in
/-- What equality means for the values in a store. -/
structure EqualityLaw : Prop where
  own : ∀ a, equalIn same store a a = true
  apart : ∀ a b, a ≠ b → (equalIn same store a b = true ↔
    ∃ index payload payload', (store a).slots.IsSole index payload ∧
      (store b).slots.IsSole index payload' ∧ same payload payload' = true)
  equivalence : Equivalence fun a b => equalIn same store a b = true
  /-- Fields that are no slots do not enter. -/
  slotsOnly : ∀ store' : ι → Value α β, (∀ a, (store' a).slots = (store a).slots) →
    ∀ a b, equalIn same store' a b = equalIn same store a b

theorem EqualityLaw.of_payloads
    (symmetric : ∀ payload other, same payload other = true → same other payload = true)
    (transitive : ∀ payload second third, same payload second = true →
      same second third = true → same payload third = true) :
    EqualityLaw same store where
  own a := equalIn_iff.mpr (.inl rfl)
  apart a b differ := by rw [equalIn_iff, or_iff_right differ, Slots.same_iff]
  equivalence :=
    { refl := fun a => equalIn_iff.mpr (.inl rfl)
      symm := by
        intro a b equal
        rcases equalIn_iff.mp equal with rfl | equal
        · exact equalIn_iff.mpr (.inl rfl)
        · exact equalIn_iff.mpr (.inr (Slots.same_symm (fun payload _ => symmetric payload) equal))
      trans := by
        intro a b c first second
        rcases equalIn_iff.mp first with rfl | equal
        · exact second
        · rcases equalIn_iff.mp second with rfl | equal'
          · exact first
          · exact equalIn_iff.mpr
              (.inr (Slots.same_trans (fun payload _ => transitive payload) equal equal')) }
  slotsOnly store' slots a b := by
    rw [Bool.eq_iff_iff, equalIn_iff, equalIn_iff, slots a, slots b]

/-- Equality is lawful for every type whose payloads have an equality that is symmetric and
transitive, at least as far as they hold no values of the type itself. -/
theorem equality_lawful {nesting : Nesting α} (inherits : nesting.Inherits same) :
    EqualityLaw same store :=
  .of_payloads inherits.symm inherits.trans

end

/-! ### Payloads that are values with slots -/

theorem sameFloat_symm {left right : Nat} (equal : sameFloat left right = true) :
    sameFloat right left = true := by
  simp only [sameFloat, Bool.and_eq_true, Bool.or_eq_true, decide_eq_true_eq] at *
  grind

theorem sameFloat_trans {first second third : Nat} (equal : sameFloat first second = true)
    (equal' : sameFloat second third = true) : sameFloat first third = true := by
  simp only [sameFloat, Bool.and_eq_true, Bool.or_eq_true, decide_eq_true_eq] at *
  grind

section

variable {same : α → α → Bool}

theorem agreeEach_symm : {left right : List α} →
    (∀ item ∈ left, ∀ other, same item other = true → same other item = true) →
    agreeEach (left.map same) right = true → agreeEach (right.map same) left = true
  | [], [], _, _ => rfl
  | first :: rest, first' :: rest', symmetric, equal => by
      simp only [List.map_cons, agreeEach, Bool.and_eq_true] at equal ⊢
      exact ⟨symmetric first (.head _) _ equal.1,
        agreeEach_symm (fun item member => symmetric item (.tail _ member)) equal.2⟩

theorem agreeEach_trans : {left middle right : List α} →
    (∀ item ∈ left, ∀ second third, same item second = true → same second third = true →
      same item third = true) →
    agreeEach (left.map same) middle = true → agreeEach (middle.map same) right = true →
    agreeEach (left.map same) right = true
  | [], [], right, _, _, equal' => equal'
  | _ :: _, _ :: _, [], _, _, equal' => by simp [agreeEach] at equal'
  | first :: rest, second :: rest', third :: rest'', transitive, equal, equal' => by
      simp only [List.map_cons, agreeEach, Bool.and_eq_true] at equal equal' ⊢
      exact ⟨transitive first (.head _) _ _ equal.1 equal'.1,
        agreeEach_trans (fun item member => transitive item (.tail _ member)) equal.2 equal'.2⟩

end

namespace Payload

/-- What a payload holds directly. -/
def parts : Payload → List Payload
  | list items => items
  | optional inner => inner.toList
  | pair first second => [first, second]
  | record _ slots => slots.filterMap id
  | _ => []

theorem sizeOf_part {payload part : Payload} (member : part ∈ payload.parts) :
    sizeOf part < sizeOf payload := by
  cases payload with
  | list items =>
      have smaller : sizeOf part < sizeOf items := List.sizeOf_lt_of_mem member
      simp only [list.sizeOf_spec]
      omega
  | optional inner =>
      obtain rfl : inner = some part := by simpa [parts] using member
      simp only [optional.sizeOf_spec, Option.some.sizeOf_spec]
      omega
  | pair first second =>
      simp only [parts, List.mem_cons, List.not_mem_nil, or_false] at member
      rcases member with rfl | rfl
      · simp only [pair.sizeOf_spec]
        omega
      · simp only [pair.sizeOf_spec]
        omega
  | record keys slots =>
      have inside : some part ∈ slots := by simpa [parts] using member
      have smaller := List.sizeOf_lt_of_mem inside
      simp only [Option.some.sizeOf_spec, record.sizeOf_spec] at smaller ⊢
      omega
  | _ => cases member

theorem induction {motive : Payload → Prop}
    (step : ∀ payload, (∀ part ∈ payload.parts, motive part) → motive payload)
    (payload : Payload) : motive payload := by
  induction bound : sizeOf payload using Nat.strongRecOn generalizing payload with
  | ind size ih =>
      subst bound
      exact step payload fun part member => ih _ (sizeOf_part member) part rfl

theorem sameItems_eq (items : List Payload) : sameItems items = items.map same := by
  induction items with
  | nil => rfl
  | cons first rest ih => simp [sameItems, ih]

/-! What equals a payload is of the same kind. -/

section

variable {items : List Payload} {inner first second other : Payload} {keys : List String}
  {slots : List (Option Payload)} {bits : Nat}

attribute [local simp] same

theorem same_list_iff : (list items).same other = true ↔
    ∃ items', other = list items' ∧ agreeEach (items.map same) items' = true := by
  cases other <;> simp [sameItems_eq]

theorem same_some_iff : (optional (some inner)).same other = true ↔
    ∃ inner', other = optional (some inner') ∧ inner.same inner' = true := by
  cases other with
  | optional inner' => cases inner' <;> simp
  | _ => simp

theorem same_pair_iff : (pair first second).same other = true ↔
    ∃ first' second', other = pair first' second' ∧ first.same first' = true ∧
      second.same second' = true := by
  cases other <;> grind [same]

theorem same_record_iff : (record keys slots).same other = true ↔
    ∃ keys' slots', other = record keys' slots' ∧ Slots.same same slots slots' = true := by
  cases other <;> grind [same, sameSlots_eq, Slots.same]

theorem same_float_iff : (float bits).same other = true ↔
    ∃ bits', other = float bits' ∧ sameFloat bits bits' = true := by
  cases other <;> simp

/-- Payloads that hold nothing equal themselves only; floats are apart. -/
theorem same_plain_iff {payload : Payload} (plain : payload.parts = [])
    (apart : ∀ bits, payload ≠ float bits) (empty : ∀ keys slots, payload ≠ record keys slots) :
    payload.same other = true ↔ payload = other := by
  cases payload with
  | list items =>
      obtain rfl : items = [] := plain
      cases other with
      | list items' => cases items' <;> simp [sameItems, agreeEach]
      | _ => simp
  | optional inner =>
      obtain rfl : inner = none := by simpa [parts] using plain
      cases other with
      | optional inner' => cases inner' <;> simp
      | _ => simp
  | pair first second => simp [parts] at plain
  | record keys slots => exact absurd rfl (empty keys slots)
  | float bits => exact absurd rfl (apart bits)
  | unit | boolean | integer | text => cases other <;> simp

end

theorem same_symm (payload other : Payload) (equal : payload.same other = true) :
    other.same payload = true := by
  -- what equals a payload is of its kind, and the parts are equal one by one
  induction payload using induction generalizing other with
  | step payload ih =>
      cases payload with
      | list items =>
          obtain ⟨items', rfl, each⟩ := same_list_iff.mp equal
          exact same_list_iff.mpr ⟨items, rfl, agreeEach_symm ih each⟩
      | optional inner =>
          cases inner with
          | none =>
              rw [same_plain_iff rfl (by simp) (by simp)] at equal
              subst equal
              rfl
          | some inner =>
              obtain ⟨inner', rfl, held⟩ := same_some_iff.mp equal
              exact same_some_iff.mpr ⟨inner, rfl, ih inner (.head _) inner' held⟩
      | pair first second =>
          obtain ⟨first', second', rfl, one, two⟩ := same_pair_iff.mp equal
          exact same_pair_iff.mpr ⟨first, second, rfl, ih first (.head _) first' one,
            ih second (.tail _ (.head _)) second' two⟩
      | record keys slots =>
          obtain ⟨keys', slots', rfl, sole⟩ := same_record_iff.mp equal
          have symmetric := Slots.same_symm
            (fun held inside => ih held (by simpa [parts] using inside)) sole
          exact same_record_iff.mpr ⟨keys, slots, rfl, symmetric⟩
      | float bits =>
          obtain ⟨bits', rfl, close⟩ := same_float_iff.mp equal
          exact same_float_iff.mpr ⟨bits, rfl, sameFloat_symm close⟩
      | unit | boolean | integer | text =>
          rw [same_plain_iff rfl (by simp) (by simp)] at equal
          subst equal
          simp [same]

theorem same_trans (payload second third : Payload) (equal : payload.same second = true)
    (equal' : second.same third = true) : payload.same third = true := by
  induction payload using induction generalizing second third with
  | step payload ih =>
      cases payload with
      | list items =>
          obtain ⟨items', rfl, each⟩ := same_list_iff.mp equal
          obtain ⟨items'', rfl, each'⟩ := same_list_iff.mp equal'
          exact same_list_iff.mpr ⟨items'', rfl, agreeEach_trans ih each each'⟩
      | optional inner =>
          cases inner with
          | none =>
              rw [same_plain_iff rfl (by simp) (by simp)] at equal
              exact equal ▸ equal'
          | some inner =>
              obtain ⟨inner', rfl, held⟩ := same_some_iff.mp equal
              obtain ⟨inner'', rfl, held'⟩ := same_some_iff.mp equal'
              exact same_some_iff.mpr
                ⟨inner'', rfl, ih inner (.head _) inner' inner'' held held'⟩
      | pair first next =>
          obtain ⟨first', next', rfl, one, two⟩ := same_pair_iff.mp equal
          obtain ⟨first'', next'', rfl, one', two'⟩ := same_pair_iff.mp equal'
          exact same_pair_iff.mpr ⟨first'', next'', rfl,
            ih first (.head _) first' first'' one one',
            ih next (.tail _ (.head _)) next' next'' two two'⟩
      | record keys slots =>
          obtain ⟨keys', slots', rfl, sole⟩ := same_record_iff.mp equal
          obtain ⟨keys'', slots'', rfl, sole'⟩ := same_record_iff.mp equal'
          have transitive := Slots.same_trans
            (fun held inside => ih held (by simpa [parts] using inside)) sole sole'
          exact same_record_iff.mpr ⟨keys'', slots'', rfl, transitive⟩
      | float bits =>
          obtain ⟨bits', rfl, close⟩ := same_float_iff.mp equal
          obtain ⟨bits'', rfl, close'⟩ := same_float_iff.mp equal'
          exact same_float_iff.mpr ⟨bits'', rfl, sameFloat_trans close close'⟩
      | unit | boolean | integer | text =>
          rw [same_plain_iff rfl (by simp) (by simp)] at equal
          exact equal ▸ equal'

/-- A record is a value in a box. -/
def nesting : Nesting Payload where
  inside
    | record _ slots => [slots]
    | _ => []
  founded := by
    refine Subrelation.wf ?_ (measure sizeOf).wf
    rintro held payload ⟨slots, member, inside⟩
    cases payload with
    | record keys slots' =>
        obtain rfl : slots = slots' := by simpa using member
        exact sizeOf_part (by simpa [parts] using inside)
    | _ => cases member

theorem nesting_inherits : nesting.Inherits same where
  symmetric payload values other equal := by
    cases payload with
    | record keys slots =>
        obtain ⟨keys', slots', rfl, sole⟩ := same_record_iff.mp equal
        exact same_record_iff.mpr ⟨keys, slots, rfl, values slots (.head _) slots' sole⟩
    | _ => exact same_symm _ _ equal
  transitive payload values second third equal equal' := by
    cases payload with
    | record keys slots =>
        obtain ⟨keys', slots', rfl, sole⟩ := same_record_iff.mp equal
        obtain ⟨keys'', slots'', rfl, sole'⟩ := same_record_iff.mp equal'
        exact same_record_iff.mpr
          ⟨keys'', slots'', rfl, values slots (.head _) slots' slots'' sole sole'⟩
    | _ => exact same_trans _ _ _ equal equal'

end Payload

/-- Two negations of one number that differ in a field that is no slot, a number next to its
negation, and nothing. -/
def negations : Nat → Value Payload Bool
  | 0 => ⟨[none, some one], false⟩
  | 1 => ⟨[none, some one], true⟩
  | 2 => ⟨[some (.integer ⟨true, 8⟩ 1), some one], false⟩
  | _ => ⟨[none, none], false⟩
where
  one : Payload := .record ["literal", "negated"] [some (.integer ⟨true, 8⟩ 1), none]

theorem equality_lawful_negations :
    EqualityLaw Payload.same negations ∧
      [(0, 1), (0, 2), (2, 1), (2, 2), (3, 4), (3, 3)].map
          (fun (a, b) => equalIn Payload.same negations a b) =
        [true, false, false, true, false, true] :=
  ⟨equality_lawful Payload.nesting_inherits, by decide⟩

end SlotSum
