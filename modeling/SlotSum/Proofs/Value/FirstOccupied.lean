import SlotSum.Value.Layout
import SlotSum.Wire.Write

/-!
The first occupied slot. Introspection, dispatch, conversion and the wire form scan the slots each
in its own way; all of them come to the same slot, also where several slots are occupied.
-/

namespace SlotSum

namespace Slots

/-- The slot is occupied, and no slot before it is. -/
inductive IsFirst : Slots α → Nat → α → Prop
  | here (payload : α) (rest : Slots α) : IsFirst (some payload :: rest) 0 payload
  | there (first : IsFirst rest index payload) : IsFirst (none :: rest) (index + 1) payload

/-- No slot is occupied. -/
def AllEmpty (slots : Slots α) : Prop := ∀ slot ∈ slots, slot = none

theorem isFirst_iff {slots : Slots α} {index : Nat} {payload : α} :
    slots.IsFirst index payload ↔
      slots[index]? = some (some payload) ∧ ∀ earlier < index, slots[earlier]? = some none := by
  constructor
  · intro first
    induction first with
    | here payload rest => exact ⟨rfl, fun earlier before => absurd before (by omega)⟩
    | there first ih =>
        refine ⟨by simpa using ih.1, fun earlier before => ?_⟩
        cases earlier with
        | zero => rfl
        | succ earlier => simpa using ih.2 earlier (by omega)
  · rintro ⟨found, empty⟩
    induction slots generalizing index with
    | nil => simp at found
    | cons slot rest ih =>
        cases index with
        | zero =>
            obtain rfl : slot = some payload := by simpa using found
            exact .here payload rest
        | succ index =>
            obtain rfl : slot = none := by simpa using empty 0 (by omega)
            refine .there (ih (by simpa using found) fun earlier before => ?_)
            simpa using empty (earlier + 1) (by omega)

theorem isFirst_or_allEmpty (slots : Slots α) :
    (∃ index payload, slots.IsFirst index payload) ∨ slots.AllEmpty := by
  induction slots with
  | nil => exact .inr (by simp [AllEmpty])
  | cons slot rest ih =>
      cases slot with
      | some payload => exact .inl ⟨0, payload, .here payload rest⟩
      | none =>
          rcases ih with ⟨index, payload, first⟩ | empty
          · exact .inl ⟨index + 1, payload, .there first⟩
          · exact .inr (by simpa [AllEmpty] using empty)

variable {slots : Slots α} {index : Nat} {payload : α}

theorem IsFirst.not_allEmpty (first : slots.IsFirst index payload) : ¬ slots.AllEmpty := by
  intro empty
  cases empty _ (List.mem_of_getElem? (isFirst_iff.mp first).1)

/-- What is known of a slot that is first holds of every list of the same length. -/
theorem IsFirst.exists_getElem? {others : List β} (first : slots.IsFirst index payload)
    (lengths : others.length = slots.length) : ∃ other, others[index]? = some other := by
  have inside : index < slots.length :=
    (List.getElem?_eq_some_iff.mp (isFirst_iff.mp first).1).1
  exact ⟨others[index], List.getElem?_eq_getElem (by omega)⟩

/-! ### Slots of which at most one is occupied -/

theorem vacant_allEmpty (count : Nat) : (vacant count : Slots α).AllEmpty :=
  fun _ member => List.eq_of_mem_replicate member

theorem only_isFirst {count : Nat} (payload : α) (inside : index < count) :
    (only count index payload).IsFirst index payload := by
  rw [isFirst_iff]
  refine ⟨by simp [only, inside], fun earlier before => ?_⟩
  have bound : earlier < count := by omega
  have differ : earlier ≠ index := by omega
  simp [only, bound, differ]

@[simp] theorem length_vacant (count : Nat) : (vacant count : Slots α).length = count := by
  simp [vacant]

@[simp] theorem length_only (count index : Nat) (payload : α) :
    (only count index payload).length = count := by
  simp [only]

theorem only_zero (count : Nat) (payload : α) :
    only (count + 1) 0 payload = some payload :: vacant count := by
  simp [only, vacant, List.range_succ_eq_map, Function.comp_def, List.map_const']

theorem only_succ (count index : Nat) (payload : α) :
    only (count + 1) (index + 1) payload = none :: only count index payload := by
  simp [only, List.range_succ_eq_map, Function.comp_def]

/-- The slots of which only the first occupied one is left. -/
def firstOnly : Slots α → Slots α
  | [] => []
  | some payload :: rest => some payload :: vacant rest.length
  | none :: rest => none :: firstOnly rest

theorem firstOnly_of_isFirst (first : slots.IsFirst index payload) :
    slots.firstOnly = only slots.length index payload := by
  induction first with
  | here payload rest => rw [firstOnly, List.length_cons, only_zero]
  | there first ih => rw [firstOnly, List.length_cons, only_succ, ih]

theorem firstOnly_of_allEmpty (empty : slots.AllEmpty) : slots.firstOnly = vacant slots.length := by
  induction slots with
  | nil => rfl
  | cons slot rest ih =>
      simp only [AllEmpty, List.forall_mem_cons] at empty
      obtain ⟨rfl, empty⟩ := empty
      rw [firstOnly, ih empty]
      rfl

theorem firstOnly_vacant (count : Nat) :
    (vacant count : Slots α).firstOnly = vacant count := by
  rw [firstOnly_of_allEmpty (vacant_allEmpty count), length_vacant]

theorem firstOnly_only {count : Nat} (payload : α) (inside : index < count) :
    (only count index payload).firstOnly = only count index payload := by
  rw [firstOnly_of_isFirst (only_isFirst payload inside), length_only]

/-! ### Scans by index -/

theorem findSome?_range_succ (each : Nat → Option β) (count : Nat) :
    (List.range (count + 1)).findSome? each =
      (each 0).or ((List.range count).findSome? fun index => each (index + 1)) := by
  rw [List.range_succ_eq_map, List.findSome?_cons, List.findSome?_map]
  cases each 0 <;> rfl

theorem occupiedIndex_eq_findSome? (slots : Slots α) :
    slots.occupiedIndex =
      (List.range slots.length).findSome? fun index =>
        (slots.payloadAt index).map fun _ => index := by
  induction slots with
  | nil => rfl
  | cons slot rest ih =>
      rw [List.length_cons, findSome?_range_succ]
      cases slot with
      | some payload => rfl
      | none =>
          rw [occupiedIndex, ih, List.map_findSome?]
          refine congrArg (List.findSome? · _) (funext fun index => ?_)
          exact Option.map_map ..

theorem map_eq_findSome? (slots : Slots α) {handlers : List (α → β)}
    (lengths : handlers.length = slots.length) :
    slots.map handlers =
      (List.range slots.length).findSome? fun index =>
        (slots.payloadAt index).bind fun payload =>
          (handlers[index]?).map fun handler => handler payload := by
  induction slots generalizing handlers with
  | nil => simp [Slots.map]
  | cons slot rest ih =>
      cases handlers with
      | nil => simp at lengths
      | cons handler more =>
          rw [List.length_cons, findSome?_range_succ]
          cases slot with
          | some payload => rfl
          | none => exact ih (by simpa using lengths)

/-! ### Introspection -/

theorem occupiedIndex_of_isFirst (first : slots.IsFirst index payload) :
    slots.occupiedIndex = some index := by
  induction first with
  | here payload rest => rfl
  | there first ih => rw [occupiedIndex, ih]; rfl

theorem occupiedIndex_of_allEmpty (empty : slots.AllEmpty) : slots.occupiedIndex = none := by
  induction slots with
  | nil => rfl
  | cons slot rest ih =>
      simp only [AllEmpty, List.forall_mem_cons] at empty
      obtain ⟨rfl, empty⟩ := empty
      rw [occupiedIndex, ih empty]
      rfl

theorem occupiedIndex_eq_some_iff :
    slots.occupiedIndex = some index ↔ ∃ payload, slots.IsFirst index payload := by
  constructor
  · intro found
    rcases slots.isFirst_or_allEmpty with ⟨other, payload, first⟩ | empty
    · rw [occupiedIndex_of_isFirst first, Option.some.injEq] at found
      exact ⟨payload, found ▸ first⟩
    · rw [occupiedIndex_of_allEmpty empty] at found
      cases found
  · rintro ⟨payload, first⟩
    exact occupiedIndex_of_isFirst first

theorem occupiedIndex_eq_none_iff : slots.occupiedIndex = none ↔ slots.AllEmpty := by
  constructor
  · intro missing
    rcases slots.isFirst_or_allEmpty with ⟨other, payload, first⟩ | empty
    · rw [occupiedIndex_of_isFirst first] at missing
      cases missing
    · exact empty
  · exact occupiedIndex_of_allEmpty

/-! ### Dispatch -/

theorem map_of_isFirst {handlers : List (α → β)} {handler : α → β}
    (first : slots.IsFirst index payload) (found : handlers[index]? = some handler) :
    slots.map handlers = some (handler payload) := by
  induction first generalizing handlers with
  | here payload rest =>
      cases handlers with
      | nil => simp at found
      | cons other more =>
          simp only [List.getElem?_cons_zero, Option.some.injEq] at found
          rw [Slots.map, found]
  | there first ih =>
      cases handlers with
      | nil => simp at found
      | cons other more =>
          rw [Slots.map]
          exact ih (by simpa using found)

theorem map_of_allEmpty (handlers : List (α → β)) (empty : slots.AllEmpty) :
    slots.map handlers = none := by
  induction slots generalizing handlers with
  | nil => simp [Slots.map]
  | cons slot rest ih =>
      simp only [AllEmpty, List.forall_mem_cons] at empty
      obtain ⟨rfl, empty⟩ := empty
      cases handlers with
      | nil => simp [Slots.map]
      | cons handler more => exact ih more empty

/-- Running a handler is mapping to its action, and running that. -/
theorem visit_eq_map {m : Type → Type} [Monad m] (slots : Slots α)
    (handlers : List (α → m Unit)) :
    slots.visit handlers =
      match slots.map handlers with
      | some action => do action; return true
      | none => return false := by
  induction slots generalizing handlers with
  | nil => simp [Slots.visit, Slots.map]
  | cons slot rest ih =>
      cases handlers with
      | nil => cases slot <;> simp [Slots.visit, Slots.map]
      | cons handler more =>
          cases slot with
          | some payload => rfl
          | none => exact ih more

theorem mapOrElse_eq_map (default : Unit → β) (slots : Slots α) (handlers : List (α → β)) :
    slots.mapOrElse default (handlers.map some) = (slots.map handlers).getD (default ()) := by
  induction slots generalizing handlers with
  | nil => simp [Slots.mapOrElse, Slots.map]
  | cons slot rest ih =>
      cases handlers with
      | nil => cases slot <;> simp [Slots.mapOrElse, Slots.map]
      | cons handler more =>
          cases slot with
          | some payload => rfl
          | none => exact ih more

theorem visitOrElse_eq_map {m : Type → Type} (default : m Unit) (slots : Slots α)
    (handlers : List (α → m Unit)) :
    slots.visitOrElse default (handlers.map some) = (slots.map handlers).getD default := by
  induction slots generalizing handlers with
  | nil => simp [Slots.visitOrElse, Slots.map]
  | cons slot rest ih =>
      cases handlers with
      | nil => cases slot <;> simp [Slots.visitOrElse, Slots.map]
      | cons handler more =>
          cases slot with
          | some payload => rfl
          | none => exact ih more

/-! ### Wire form -/

theorem transform_isFirst (change : α → β) (first : slots.IsFirst index payload) :
    (slots.transform change).IsFirst index (change payload) := by
  induction first with
  | here payload rest => exact .here (change payload) (rest.transform change)
  | there first ih => exact .there ih

theorem transform_allEmpty (change : α → β) (empty : slots.AllEmpty) :
    (slots.transform change).AllEmpty := by
  intro slot member
  obtain ⟨before, within, rfl⟩ := List.mem_map.mp member
  rw [empty before within]
  rfl

theorem written_of_isFirst {slots : Slots Json} {payload : Json} {keys : List String}
    {key : String} (first : slots.IsFirst index payload) (found : keys[index]? = some key) :
    written keys slots = .object [.mk (some key) payload] true := by
  induction first generalizing keys with
  | here payload rest =>
      cases keys with
      | nil => simp at found
      | cons other more =>
          simp only [List.getElem?_cons_zero, Option.some.injEq] at found
          rw [written, found]
  | there first ih =>
      cases keys with
      | nil => simp at found
      | cons other more =>
          rw [written]
          exact ih (by simpa using found)

theorem written_of_allEmpty {slots : Slots Json} (keys : List String) (empty : slots.AllEmpty) :
    written keys slots = .object [] true := by
  induction slots generalizing keys with
  | nil => cases keys <;> simp [written]
  | cons slot rest ih =>
      simp only [AllEmpty, List.forall_mem_cons] at empty
      obtain ⟨rfl, empty⟩ := empty
      cases keys with
      | nil => simp [written]
      | cons key more => exact ih more empty

theorem json_of_isFirst {slots : Slots Payload} {payload : Payload} {keys : List String}
    {key : String} (first : slots.IsFirst index payload) (found : keys[index]? = some key) :
    slots.json keys = .object [.mk (some key) payload.json] true :=
  written_of_isFirst (transform_isFirst Payload.json first) found

theorem json_of_allEmpty {slots : Slots Payload} (keys : List String) (empty : slots.AllEmpty) :
    slots.json keys = .object [] true :=
  written_of_allEmpty keys (transform_allEmpty Payload.json empty)

end Slots

/-! ### Conversion -/

namespace Value

theorem take_of_isFirst {value : Value α β} {index : Nat} {payload : α}
    (first : value.slots.IsFirst index payload) : value.take index = .ok payload := by
  simp [take, Slots.occupiedIndex_of_isFirst first, Slots.payloadAt, (Slots.isFirst_iff.mp first).1]

theorem take_of_not_isFirst {value : Value α β} {index : Nat}
    (other : ∀ payload, ¬ value.slots.IsFirst index payload) : value.take index = .error value := by
  have elsewhere : value.slots.occupiedIndex ≠ some index := by
    rw [Ne, Slots.occupiedIndex_eq_some_iff]
    exact fun ⟨payload, first⟩ => other payload first
  simp [take, elsewhere]

theorem take_eq_ok_iff {value : Value α β} {index : Nat} {payload : α} :
    value.take index = .ok payload ↔ value.slots.IsFirst index payload := by
  constructor
  · intro taken
    by_cases first : ∃ payload, value.slots.IsFirst index payload
    · obtain ⟨payload', first⟩ := first
      rw [take_of_isFirst first, Except.ok.injEq] at taken
      exact taken ▸ first
    · rw [take_of_not_isFirst fun payload first' => first ⟨payload, first'⟩] at taken
      cases taken
  · exact take_of_isFirst

end Value

/-! ### All observers -/

/-- What the observers of a value say, each about the first occupied slot. -/
structure Observed (schema : Schema) (layout : Layout) (value : Value Payload β) : Prop where
  occupied : ∀ index, value.slots.occupiedIndex = some index ↔
    (∃ payload, value.slots[index]? = some (some payload)) ∧
      ∀ earlier < index, value.slots[earlier]? = some none
  unoccupied : value.slots.occupiedIndex = none ↔ value.slots.AllEmpty
  vacant : value.slots.isVacant = true ↔ value.slots.AllEmpty
  variant : ∀ index payload, value.slots.IsFirst index payload →
    ∃ slot, schema.slots[index]? = some slot ∧
      value.slots.variantName layout.variants = some slot.variant
  noVariant : value.slots.variantName layout.variants = none ↔ value.slots.AllEmpty
  mapped : ∀ (γ : Type) (handlers : List (Payload → γ)), handlers.length = schema.slots.length →
    ∀ index payload, value.slots.IsFirst index payload →
      ∃ handler, handlers[index]? = some handler ∧
        layout.map value.slots handlers = .ok (handler payload)
  unmapped : ∀ (γ : Type) (handlers : List (Payload → γ)),
    handlers.length = schema.slots.length →
      (layout.map value.slots handlers = .error layout.noVariantOccupied ↔ value.slots.AllEmpty)
  visited : ∀ (m : Type → Type) [Monad m] [LawfulMonad m] (handlers : List (Payload → m Unit)),
    layout.visit value.slots handlers =
      match layout.map value.slots handlers with
      | .ok action => do action; return .ok ()
      | .error failure => return .error failure
  mappedOrElse : ∀ (γ : Type) (default : Unit → γ) (handlers : List (Payload → γ)),
    value.slots.mapOrElse default (handlers.map some) =
      match layout.map value.slots handlers with
      | .ok result => result
      | .error _ => default ()
  visitedOrElse : ∀ (m : Type → Type) (default : m Unit)
    (handlers : List (Payload → m Unit)),
    value.slots.visitOrElse default (handlers.map some) =
      match layout.map value.slots handlers with
      | .ok action => action
      | .error _ => default
  taken : ∀ index payload, value.take index = .ok payload ↔ value.slots.IsFirst index payload
  kept : ∀ index, (∀ payload, ¬ value.slots.IsFirst index payload) →
    value.take index = .error value
  written : ∀ index payload, value.slots.IsFirst index payload →
    ∃ slot, schema.slots[index]? = some slot ∧
      value.slots.json layout.keys = .object [.mk (some slot.key) payload.json] true
  unwritten : value.slots.AllEmpty → value.slots.json layout.keys = .object [] true

/-- All observers of a value agree on which slot is occupied, whatever the value holds. -/
theorem observers_agree {schema : Schema} {value : Value Payload β} (place : String) (plan : Plan)
    (fits : value.slots.length = schema.slots.length) :
    Observed schema (Layout.ofSchema place schema plan) value where
  occupied index := by
    rw [Slots.occupiedIndex_eq_some_iff]
    simp only [Slots.isFirst_iff, exists_and_right]
  unoccupied := Slots.occupiedIndex_eq_none_iff
  vacant := by
    rw [Slots.isVacant, Option.isNone_iff_eq_none]
    exact Slots.occupiedIndex_eq_none_iff
  variant index payload first := by
    obtain ⟨slot, found⟩ := first.exists_getElem? fits.symm
    refine ⟨slot, found, ?_⟩
    simp [Slots.variantName, Slots.occupiedIndex_of_isFirst first, Layout.ofSchema, found]
  noVariant := by
    rcases value.slots.isFirst_or_allEmpty with ⟨index, payload, first⟩ | empty
    · obtain ⟨slot, found⟩ := first.exists_getElem? fits.symm
      simp [Slots.variantName, Slots.occupiedIndex_of_isFirst first, Layout.ofSchema, found,
        first.not_allEmpty]
    · simp [Slots.variantName, Slots.occupiedIndex_of_allEmpty empty, empty]
  mapped γ handlers lengths index payload first := by
    obtain ⟨handler, found⟩ := first.exists_getElem? (lengths.trans fits.symm)
    exact ⟨handler, found, by rw [Layout.map, Slots.map_of_isFirst first found]⟩
  unmapped γ handlers lengths := by
    rcases value.slots.isFirst_or_allEmpty with ⟨index, payload, first⟩ | empty
    · obtain ⟨handler, found⟩ := first.exists_getElem? (lengths.trans fits.symm)
      simp [Layout.map, Slots.map_of_isFirst first found, first.not_allEmpty]
    · simp [Layout.map, Slots.map_of_allEmpty handlers empty, empty]
  visited m _ _ handlers := by
    rw [Layout.visit, Layout.map, Slots.visit_eq_map]
    cases value.slots.map handlers with
    | some action => simp
    | none => simp
  mappedOrElse γ default handlers := by
    rw [Layout.map, Slots.mapOrElse_eq_map]
    cases value.slots.map handlers <;> rfl
  visitedOrElse m default handlers := by
    rw [Layout.map, Slots.visitOrElse_eq_map]
    cases value.slots.map handlers <;> rfl
  taken index payload := Value.take_eq_ok_iff
  kept index other := Value.take_of_not_isFirst other
  written index payload first := by
    obtain ⟨slot, found⟩ := first.exists_getElem? fits.symm
    refine ⟨slot, found, Slots.json_of_isFirst first ?_⟩
    simp [Layout.ofSchema, found]
  unwritten empty := Slots.json_of_allEmpty _ empty

/-- A count, a label, or a mark that holds nothing. -/
def Schema.entry : Schema :=
  { owner := ⟨"Entry", .callSite⟩, visibility := .inherited, generics := .empty
    slots :=
      [ ⟨⟨"count", .callSite⟩, .path false [.mk "u32" .none]⟩,
        ⟨⟨"label", .callSite⟩, .path false [.mk "String" .none]⟩,
        ⟨⟨"mark", .callSite⟩, .tuple [] false⟩ ]
    others := [], derives := [], constructor := none }

theorem observers_agree_entry :
    ∃ value : Value Payload Unit,
      value.slots = [none, some (.text "a"), some .unit] ∧
      value.slots.length = Schema.entry.slots.length ∧
      value.slots.IsFirst 1 (.text "a") ∧
      ∀ plan, Observed Schema.entry (Layout.ofSchema "crate" Schema.entry plan) value :=
  ⟨⟨[none, some (.text "a"), some .unit], ()⟩, rfl, rfl, .there (.here _ _),
    fun plan => observers_agree "crate" plan rfl⟩

end SlotSum
