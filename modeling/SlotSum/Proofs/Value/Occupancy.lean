import SlotSum.Proofs.Value.Equality
import SlotSum.Proofs.Wire.Format

/-!
How many slots the values of a program occupy. A program makes values by factories and from texts,
copies them, sets their other fields and takes payloads out of them. As long as it leaves the
constructor alone, each of its values occupies one slot or was read from an empty map; this holds of
values inside payloads as well, for they have been made or read before.
-/

namespace SlotSum

/-- Where a value comes from: a factory, also one behind a conversion, or the wire. -/
inductive Origin (α : Type) where
  | made (index : Nat) (payload : α)
  | read (json : Json)

/-- A value together with where it comes from. -/
structure Tracked (α β : Type) where
  origin : Origin α
  value : Value α β

/-- A value inside a payload, at any depth. -/
inductive Within (inside : α → List (Tracked α β)) : α → Tracked α β → Prop
  | here {inner : Tracked α β} (member : inner ∈ inside payload) : Within inside payload inner
  | deeper {inner outer : Tracked α β} (member : outer ∈ inside payload)
      (occupied : some part ∈ outer.value.slots) (within : Within inside part inner) :
      Within inside payload inner

/-- A value that was read, its payload in whatever way. -/
def Tracked.IsRead (keys : List String) (tracked : Tracked α β) : Prop :=
  ∃ json decode, tracked.origin = .read json ∧
    Slots.readWith keys decode json = .ok tracked.value.slots

/-- What a type with slots brings along. Its constructor stores each argument in its slot, whatever
it does with other fields; payloads may hold values of the type, and are read together with them. -/
structure SlotType (α β : Type) where
  keys : List String
  construct : Slots α → Value α β
  stores : ∀ slots, (construct slots).slots = slots
  decode : Nat → Json → Reading α
  inside : α → List (Tracked α β)
  readsInside : ∀ index json payload, decode index json = .ok payload →
    ∀ inner, Within inside payload inner → inner.IsRead keys

/-- The values that a program has, and the payloads that it took out of others. -/
structure Memory (α β : Type) where
  registers : String → Option (Tracked α β)
  loose : List α

namespace Memory

def empty : Memory α β := ⟨fun _ => none, []⟩

def store (memory : Memory α β) (name : String) (tracked : Tracked α β) : Memory α β :=
  { memory with
    registers := fun other => if other = name then some tracked else memory.registers other }

/-- Empties a register, and keeps the payload that was in its value. -/
def takeOut (memory : Memory α β) (name : String) (payload : α) : Memory α β where
  registers other := if other = name then none else memory.registers other
  loose := payload :: memory.loose

end Memory

inductive Operation (α β : Type) where
  /-- A factory, or the conversion through it. -/
  | make (target : String) (index : Nat) (payload : α)
  | read (target : String) (json : Json)
  | clone (source target : String)
  | setExtra (name : String) (extra : β)
  /-- Takes the payload of a slot out of a value. The register keeps a value that is rejected. -/
  | takeOut (name : String) (index : Nat)
  /-- Makes a value inside a payload, or a copy of it, a value of its own. -/
  | unpack (target : String) (inner : Tracked α β)

namespace SlotType

variable (type : SlotType α β)

/-- The values that there are: those in registers and those inside of payloads. -/
inductive Holds (memory : Memory α β) : Tracked α β → Prop
  | register (found : memory.registers name = some tracked) : Holds memory tracked
  | nested (found : memory.registers name = some outer) (occupied : some payload ∈ outer.value.slots)
      (within : Within type.inside payload tracked) : Holds memory tracked
  | loose (member : payload ∈ memory.loose) (within : Within type.inside payload tracked) :
      Holds memory tracked

/-- There is a factory for each slot, and a payload can hold only what there is. -/
def Allowed (memory : Memory α β) : Operation α β → Prop
  | .make _ index payload =>
    index < type.keys.length ∧ ∀ inner ∈ type.inside payload, type.Holds memory inner
  | .unpack _ inner => type.Holds memory inner
  | _ => True

def perform (memory : Memory α β) : Operation α β → Memory α β
  | .make target index payload =>
    memory.store target
      ⟨.made index payload, type.construct (Slots.only type.keys.length index payload)⟩
  | .read target json =>
    match Slots.readWith type.keys type.decode json with
    | .ok slots => memory.store target ⟨.read json, type.construct slots⟩
    | .error _ => memory
  | .clone source target =>
    match memory.registers source with
    | some tracked => memory.store target tracked
    | none => memory
  | .setExtra name extra =>
    match memory.registers name with
    | some ⟨origin, value⟩ => memory.store name ⟨origin, { value with extra }⟩
    | none => memory
  | .takeOut name index =>
    match memory.registers name with
    | some ⟨origin, value⟩ =>
      match value.take index with
      | .ok payload => memory.takeOut name payload
      | .error rejected => memory.store name ⟨origin, rejected⟩
    | none => memory
  | .unpack target inner => memory.store target inner

/-- A memory that a run of allowed operations leads to. -/
inductive Reached : Memory α β → Prop
  | start : Reached .empty
  | step (reached : Reached memory) (allowed : type.Allowed memory operation) :
      Reached (type.perform memory operation)

end SlotType

/-! ### Values and their origins -/

/-- The slots of a value are those that its origin gave it. -/
def Tracked.IsExplained (keys : List String) (tracked : Tracked α β) : Prop :=
  match tracked.origin with
  | .made index payload =>
    index < keys.length ∧ tracked.value.slots = Slots.only keys.length index payload
  | .read json => ∃ decode, Slots.readWith keys decode json = .ok tracked.value.slots

theorem Tracked.IsRead.isExplained {keys : List String} {tracked : Tracked α β}
    (read : tracked.IsRead keys) : tracked.IsExplained keys := by
  obtain ⟨json, decode, origin, accepted⟩ := read
  rw [IsExplained, origin]
  exact ⟨decode, accepted⟩

namespace Slots

variable {slots : Slots α} {index index' : Nat} {payload payload' : α}

theorem only_isSole {count : Nat} (payload : α) (inside : index < count) :
    (only count index payload).IsSole index payload := by
  refine ⟨by simp [only, inside], fun other slot found differ => ?_⟩
  obtain ⟨bound, rfl⟩ := List.getElem?_eq_some_iff.mp found
  simp [only, differ]

theorem mem_only {count : Nat} {part : α} (member : some part ∈ only count index payload) :
    part = payload := by
  obtain ⟨other, -, own⟩ := List.mem_map.mp member
  split at own
  · exact (Option.some.inj own).symm
  · cases own

/-- At most one slot is occupied. -/
def IsSingle (slots : Slots α) : Prop :=
  ∀ (index index' : Nat) payload payload', slots[index]? = some (some payload) →
    slots[index']? = some (some payload') → index = index'

theorem IsSole.isSingle (sole : slots.IsSole index payload) : slots.IsSingle := by
  have place : ∀ other payload', slots[other]? = some (some payload') → other = index := by
    intro other payload' found
    by_contra differ
    cases sole.2 other _ found differ
  intro first second _ _ found found'
  rw [place first _ found, place second _ found']

theorem AllEmpty.isSingle (empty : slots.AllEmpty) : slots.IsSingle := by
  intro first _ payload _ found
  cases empty _ (List.mem_of_getElem? found)

/-- What is read occupies the slot of its key, or is nothing but an empty map. -/
theorem readWith_ok {keys : List String} {decode : Nat → Json → Reading α} {json : Json}
    (accepted : readWith keys decode json = .ok slots) :
    json = .object [] true ∧ slots = vacant keys.length ∨
      ∃ index value payload, index < keys.length ∧ decode index value = .ok payload ∧
        slots = only keys.length index payload := by
  cases json with
  | object entries closed =>
      cases entries with
      | nil =>
          rw [readWith] at accepted
          obtain ⟨rfl, rfl⟩ := readEntries_nil_ok accepted
          exact .inl ⟨rfl, rfl⟩
      | cons entry rest =>
          obtain ⟨key, value⟩ := entry
          obtain ⟨-, -, index, name, payload, -, keyed, decoded, rfl⟩ :=
            readEntries_cons_ok accepted
          have inside := (List.getElem?_eq_some_iff.mp keyed).1
          exact .inr ⟨index, value, payload, inside, decoded, rfl⟩
  | _ => cases accepted

end Slots

/-- What is known of a value by its origin. -/
structure Tracked.IsTraced (keys : List String) (tracked : Tracked α β) : Prop where
  length : tracked.value.slots.length = keys.length
  single : tracked.value.slots.IsSingle
  made : ∀ index payload, tracked.origin = .made index payload →
    tracked.value.slots.IsSole index payload
  vacant : tracked.value.slots.AllEmpty → tracked.origin = .read (.object [] true)

theorem Tracked.isTraced_of_only {keys : List String} {tracked : Tracked α β} {index : Nat}
    {payload : α} (inside : index < keys.length)
    (slots : tracked.value.slots = Slots.only keys.length index payload)
    (own : ∀ index' payload', tracked.origin = .made index' payload' →
      index' = index ∧ payload' = payload) : tracked.IsTraced keys where
  length := by rw [slots, Slots.length_only]
  single := slots ▸ (Slots.only_isSole payload inside).isSingle
  made index' payload' origin := by
    obtain ⟨rfl, rfl⟩ := own index' payload' origin
    exact slots ▸ Slots.only_isSole payload' inside
  vacant empty := absurd (slots ▸ empty) (Slots.only_isFirst payload inside).not_allEmpty

theorem Tracked.IsExplained.isTraced {keys : List String} {tracked : Tracked α β}
    (explained : tracked.IsExplained keys) : tracked.IsTraced keys := by
  obtain ⟨origin, value⟩ := tracked
  cases origin with
  | made index payload =>
      obtain ⟨inside, slots⟩ := explained
      refine isTraced_of_only inside slots ?_
      rintro _ _ ⟨⟩
      exact ⟨rfl, rfl⟩
  | read json =>
      obtain ⟨decode, accepted⟩ := explained
      rcases Slots.readWith_ok accepted with ⟨rfl, slots⟩ | ⟨index, _, payload, inside, -, slots⟩
      · have empty : value.slots.AllEmpty := slots ▸ Slots.vacant_allEmpty _
        exact
          { length := by rw [slots, Slots.length_vacant]
            single := empty.isSingle
            made := nofun
            vacant := fun _ => rfl }
      · exact isTraced_of_only inside slots nofun

/-! ### Runs -/

theorem Within.trans {inside : α → List (Tracked α β)} {payload part : α}
    {outer inner : Tracked α β} (within : Within inside payload outer)
    (occupied : some part ∈ outer.value.slots) (within' : Within inside part inner) :
    Within inside payload inner := by
  induction within with
  | here member => exact .deeper member occupied within'
  | deeper member occupied' _ ih => exact .deeper member occupied' (ih occupied)

theorem Value.eq_of_take_error {value rejected : Value α β} {index : Nat}
    (failed : value.take index = .error rejected) : rejected = value := by
  by_cases first : ∃ payload, value.slots.IsFirst index payload
  · obtain ⟨payload, first⟩ := first
    rw [take_of_isFirst first] at failed
    cases failed
  · rw [take_of_not_isFirst fun payload first' => first ⟨payload, first'⟩] at failed
    exact (Except.error.inj failed).symm

namespace SlotType

variable {type : SlotType α β} {memory : Memory α β} {tracked : Tracked α β} {name : String}
  {payload : α}

/-- All values inside of a payload have the slots that their origins gave them. -/
def Clean (type : SlotType α β) (payload : α) : Prop :=
  ∀ inner, Within type.inside payload inner → inner.IsExplained type.keys

/-- A value has the slots that its origin gave it, and so has every value inside of it. -/
structure Sound (type : SlotType α β) (tracked : Tracked α β) : Prop where
  explained : tracked.IsExplained type.keys
  clean : ∀ payload, some payload ∈ tracked.value.slots → type.Clean payload

/-- The invariant of all runs. -/
structure Invariant (type : SlotType α β) (memory : Memory α β) : Prop where
  registers : ∀ name tracked, memory.registers name = some tracked → type.Sound tracked
  loose : ∀ payload ∈ memory.loose, type.Clean payload

theorem Clean.sound (clean : type.Clean payload) (within : Within type.inside payload tracked) :
    type.Sound tracked :=
  ⟨clean tracked within, fun _ occupied inner within' =>
    clean inner (within.trans occupied within')⟩

theorem Clean.of_inside (sound : ∀ inner ∈ type.inside payload, type.Sound inner) :
    type.Clean payload := by
  intro inner within
  cases within with
  | here member => exact (sound inner member).explained
  | deeper member occupied within => exact (sound _ member).clean _ occupied inner within

theorem Invariant.holds (invariant : type.Invariant memory) (held : type.Holds memory tracked) :
    type.Sound tracked := by
  cases held with
  | register found => exact invariant.registers _ _ found
  | nested found occupied within =>
      exact ((invariant.registers _ _ found).clean _ occupied).sound within
  | loose member within => exact (invariant.loose _ member).sound within

theorem Invariant.store (invariant : type.Invariant memory) (sound : type.Sound tracked) :
    type.Invariant (memory.store name tracked) where
  registers other tracked' found := by
    simp only [Memory.store] at found
    split at found
    · exact Option.some.inj found ▸ sound
    · exact invariant.registers other tracked' found
  loose := invariant.loose

theorem Invariant.takeOut (invariant : type.Invariant memory) (clean : type.Clean payload) :
    type.Invariant (memory.takeOut name payload) where
  registers other tracked found := by
    simp only [Memory.takeOut] at found
    split at found
    · cases found
    · exact invariant.registers other tracked found
  loose := List.forall_mem_cons.mpr ⟨clean, invariant.loose⟩

/-- A factory fills one slot, with a payload that holds sound values only. -/
theorem sound_made {index : Nat} (inside : index < type.keys.length) (clean : type.Clean payload) :
    type.Sound
      ⟨.made index payload, type.construct (Slots.only type.keys.length index payload)⟩ where
  explained := ⟨inside, type.stores _⟩
  clean part occupied := by
    rw [type.stores] at occupied
    exact Slots.mem_only occupied ▸ clean

theorem sound_read {json : Json} {slots : Slots α}
    (accepted : Slots.readWith type.keys type.decode json = .ok slots) :
    type.Sound ⟨.read json, type.construct slots⟩ where
  explained := ⟨type.decode, by rw [type.stores, accepted]⟩
  clean part occupied := by
    rw [type.stores] at occupied
    rcases Slots.readWith_ok accepted with ⟨-, rfl⟩ | ⟨index, value, payload, -, decoded, rfl⟩
    · cases Slots.vacant_allEmpty _ _ occupied
    · obtain rfl := Slots.mem_only occupied
      exact fun inner within =>
        (type.readsInside index value part decoded inner within).isExplained

theorem Invariant.perform {operation : Operation α β} (invariant : type.Invariant memory)
    (allowed : type.Allowed memory operation) :
    type.Invariant (type.perform memory operation) := by
  cases operation with
  | make target index payload =>
      have clean := Clean.of_inside fun inner member => invariant.holds (allowed.2 inner member)
      exact invariant.store (sound_made allowed.1 clean)
  | read target json =>
      simp only [SlotType.perform]
      split
      · rename_i slots accepted
        exact invariant.store (sound_read accepted)
      · exact invariant
  | clone source target =>
      simp only [SlotType.perform]
      split
      · rename_i tracked found
        exact invariant.store (invariant.registers source tracked found)
      · exact invariant
  | setExtra name extra =>
      simp only [SlotType.perform]
      split
      · rename_i origin value found
        have sound := invariant.registers name _ found
        exact invariant.store ⟨sound.explained, sound.clean⟩
      · exact invariant
  | takeOut name index =>
      simp only [SlotType.perform]
      split
      · rename_i origin value found
        have sound := invariant.registers name _ found
        split
        · rename_i payload taken
          have first := Value.take_eq_ok_iff.mp taken
          have occupied := List.mem_of_getElem? (Slots.isFirst_iff.mp first).1
          exact invariant.takeOut (sound.clean payload occupied)
        · rename_i rejected failed
          exact invariant.store (Value.eq_of_take_error failed ▸ sound)
      · exact invariant
  | unpack target inner => exact invariant.store (invariant.holds allowed)

theorem Reached.invariant (reached : type.Reached memory) : type.Invariant memory := by
  induction reached with
  | start => exact ⟨nofun, nofun⟩
  | step reached allowed ih => exact ih.perform allowed

/-- What there is after a run has one slot occupied, unless it was read from an empty map. -/
theorem Reached.isTraced (reached : type.Reached memory) (held : type.Holds memory tracked) :
    tracked.IsTraced type.keys :=
  (reached.invariant.holds held).explained.isTraced

end SlotType

end SlotSum
