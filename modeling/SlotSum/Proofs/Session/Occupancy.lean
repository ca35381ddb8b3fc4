import SlotSum.Proofs.Value.Occupancy
import SlotSum.Session.Step

/-!
Sessions that leave the constructor alone. Each of their steps is an operation on the registers or
leaves them as they are, so a session is a run, and its values occupy one slot or were read from an
empty map.
-/

namespace SlotSum

/-- What a subject brings along. Values inside payloads are not told apart. -/
def Subject.slotType (subject : Subject) : SlotType Payload (Option Payload) where
  keys := subject.layout.keys
  construct := Session.construct subject
  stores _ := rfl
  decode index json :=
    match subject.shapes[index]? with
    | some shape => Reader.nested Catalog.shapes (Reader.depthLimit - 1) shape json
    | none => .error .malformed
  inside _ := []
  readsInside _ _ _ _ inner within := by
    cases within with
    | here member => cases member
    | deeper member => cases member

namespace Session

/-- The registers after some steps. -/
def registersAfter (subject : Subject) : Registers → List Step → Registers
  | registers, [] => registers
  | registers, first :: rest => registersAfter subject (step subject registers first).1 rest

/-- A step that calls the constructor itself. -/
def constructs : Step → Bool
  | .construct .. => true
  | _ => false

/-- Registers hold the values of a memory. -/
def Mirrors (registers : Registers) (memory : Memory Payload (Option Payload)) : Prop :=
  ∀ name, registers.lookup name = (memory.registers name).map Tracked.value

variable {subject : Subject} {registers : Registers} {name : String} {value : Held}
  {memory : Memory Payload (Option Payload)}

theorem lookup_discard (registers : Registers) (name other : String) :
    (discard registers name).lookup other =
      if other = name then none else registers.lookup other := by
  induction registers with
  | nil => simp [discard]
  | cons entry rest ih =>
      obtain ⟨key, value⟩ := entry
      rw [discard] at ih ⊢
      by_cases same : key = name
      · subst same
        rw [List.filter_cons_of_neg (by simp), ih]
        by_cases there : other = key
        · simp [there]
        · simp only [there, if_false, List.lookup_cons, beq_false_of_ne there]
      · rw [List.filter_cons_of_pos (by simpa using same), List.lookup_cons, List.lookup_cons, ih]
        by_cases there : other = key
        · simp [there, same]
        · simp only [beq_false_of_ne there]

theorem lookup_store (registers : Registers) (name other : String) (value : Held) :
    (store registers name value).lookup other =
      if other = name then some value else registers.lookup other := by
  rw [store, List.lookup_cons]
  by_cases same : other = name
  · simp [same]
  · have kept := lookup_discard registers name other
    rw [discard, if_neg same] at kept
    simp only [beq_false_of_ne same, if_neg same, kept]

theorem Mirrors.store (mirrors : Mirrors registers memory)
    (tracked : Tracked Payload (Option Payload)) :
    Mirrors (store registers name tracked.value) (memory.store name tracked) := by
  intro other
  rw [lookup_store, Memory.store]
  by_cases same : other = name
  · simp [same]
  · simp [same, mirrors other]

theorem Mirrors.takeOut (mirrors : Mirrors registers memory) (payload : Payload) :
    Mirrors (discard registers name) (memory.takeOut name payload) := by
  intro other
  rw [lookup_discard, Memory.takeOut]
  by_cases same : other = name
  · simp [same]
  · simp [same, mirrors other]

/-- The value of a register is one that the memory has there, from somewhere. -/
theorem Mirrors.found (mirrors : Mirrors registers memory)
    (held : registers.lookup name = some value) :
    ∃ origin, memory.registers name = some ⟨origin, value⟩ := by
  rw [mirrors name] at held
  obtain ⟨tracked, found, rfl⟩ := Option.map_eq_some_iff.mp held
  exact ⟨tracked.origin, found⟩

/-! ### One step -/

/-- There is a run to a memory that has the values of the registers. -/
def IsRun (subject : Subject) (registers : Registers) : Prop :=
  ∃ memory, subject.slotType.Reached memory ∧ Mirrors registers memory

theorem IsRun.perform (reached : subject.slotType.Reached memory)
    (operation : Operation Payload (Option Payload))
    (allowed : subject.slotType.Allowed memory operation)
    (mirrors : Mirrors registers (subject.slotType.perform memory operation)) :
    IsRun subject registers :=
  ⟨_, .step reached allowed, mirrors⟩

/-- A factory, or a conversion through it. -/
theorem IsRun.make (run : IsRun subject registers)
    (fits : subject.shapes.length = subject.layout.keys.length) {target : String} {slot : Nat}
    {datum : Datum} (filled : (payloadFor subject slot datum).map (make subject slot) = .ok value) :
    IsRun subject (store registers target value) := by
  obtain ⟨memory, reached, mirrors⟩ := run
  obtain ⟨payload, found, rfl⟩ := map_eq_ok.mp filled
  have inside : slot < subject.layout.keys.length := by
    rw [payloadFor] at found
    split at found
    · cases found
    · rename_i shape here
      exact fits ▸ (List.getElem?_eq_some_iff.mp here).1
  refine .perform reached (.make target slot payload) ⟨inside, nofun⟩ ?_
  rw [Session.make, fits]
  exact mirrors.store ⟨_, _⟩

theorem IsRun.read (run : IsRun subject registers) {target text : String}
    (filled : deserialized subject text = .ok value) :
    IsRun subject (store registers target value) := by
  obtain ⟨memory, reached, mirrors⟩ := run
  rw [deserialized] at filled
  split at filled
  · rw [mapError_eq_ok, Value.read, map_eq_ok] at filled
    obtain ⟨slots, document, rfl⟩ := filled
    obtain ⟨slots, own, ended⟩ := bind_eq_ok.mp document
    split at ended
    · cases ended
      have accepted : Slots.readWith subject.slotType.keys subject.slotType.decode
          (Document.scan text).value = .ok slots := by
        rw [← own, Slots.ofJson]
        cases (Document.scan text).value <;> rfl
      refine .perform reached (.read target (Document.scan text).value) trivial ?_
      simp only [SlotType.perform, accepted]
      exact mirrors.store ⟨_, _⟩
    · cases ended
  · cases filled

theorem IsRun.clone (run : IsRun subject registers) {source target : String}
    (held : registers.lookup source = some value) :
    IsRun subject (store registers target value) := by
  obtain ⟨memory, reached, mirrors⟩ := run
  obtain ⟨origin, found⟩ := mirrors.found held
  refine .perform reached (.clone source target) trivial ?_
  simp only [SlotType.perform, found]
  exact mirrors.store ⟨_, _⟩

theorem IsRun.filling (run : IsRun subject registers)
    (fits : subject.shapes.length = subject.layout.keys.length) {first : Step} {target : String}
    (free : constructs first = false)
    (filled : filling subject registers first = some (target, .ok value)) :
    IsRun subject (store registers target value) := by
  cases first with
  | construct => cases free
  | factory target' slot datum =>
      obtain ⟨rfl, made⟩ := Prod.mk.inj (Option.some.inj filled)
      exact run.make fits made
  | convert target' slot datum =>
      simp only [Session.filling] at filled
      split at filled
      · obtain ⟨rfl, made⟩ := Prod.mk.inj (Option.some.inj filled)
        exact run.make fits made
      · cases filled
  | deserialize target' text =>
      obtain ⟨rfl, read⟩ := Prod.mk.inj (Option.some.inj filled)
      exact run.read read
  | clone source target' =>
      obtain ⟨rfl, copied⟩ := Prod.mk.inj (Option.some.inj filled)
      split at copied
      · cases copied
      · rename_i found
        split at copied
        · cases copied
          exact run.clone found
        · cases copied
  | _ => cases filled

theorem IsRun.onRegister (run : IsRun subject registers) {act : Held → Registers × Reply}
    (each : ∀ value, registers.lookup name = some value → IsRun subject (act value).1) :
    IsRun subject (onRegister registers name act).1 := by
  rw [Session.onRegister]
  split
  · exact run
  · rename_i value held
    exact each value held

theorem IsRun.tryInto (run : IsRun subject registers) (slot : Nat)
    (held : registers.lookup name = some value) :
    IsRun subject (tryInto subject registers name slot value).1 := by
  rw [Session.tryInto]
  split
  · obtain ⟨memory, reached, mirrors⟩ := run
    obtain ⟨origin, found⟩ := mirrors.found held
    split
    · rename_i payload taken
      refine .perform reached (.takeOut name slot) trivial ?_
      simp only [SlotType.perform, found, taken]
      exact mirrors.takeOut payload
    · rename_i rejected failed
      refine .perform reached (.takeOut name slot) trivial ?_
      simp only [SlotType.perform, found, failed]
      exact mirrors.store ⟨_, _⟩
  · exact run

theorem IsRun.setExtra (run : IsRun subject registers) (datum : Datum)
    (held : registers.lookup name = some value) :
    IsRun subject (setExtra subject registers name datum value).1 := by
  rw [Session.setExtra]
  split
  · exact run
  · split
    · exact run
    · rename_i payload _
      obtain ⟨memory, reached, mirrors⟩ := run
      obtain ⟨origin, found⟩ := mirrors.found held
      refine .perform reached (.setExtra name (some payload)) trivial ?_
      simp only [SlotType.perform, found]
      exact mirrors.store ⟨_, _⟩

theorem IsRun.compare (run : IsRun subject registers) (other : String) (value : Held) :
    IsRun subject (compare registers name other value).1 := by
  rw [Session.compare]
  split
  · exact run
  · exact run

/-- A step is an operation, or leaves the registers as they are. -/
theorem IsRun.step (run : IsRun subject registers)
    (fits : subject.shapes.length = subject.layout.keys.length) {first : Step}
    (free : constructs first = false) : IsRun subject (step subject registers first).1 := by
  unfold Session.step
  split
  · rename_i target value filled
    exact run.filling fits free filled
  · exact run
  · cases first with
    | tryInto name slot => exact run.onRegister fun value held => run.tryInto slot held
    | compare name other => exact run.onRegister fun value _ => run.compare other value
    | setExtra name datum => exact run.onRegister fun value held => run.setExtra datum held
    | state | occupied | accessors | map | visit | mapOrElse | visitOrElse | hash | serialize =>
        exact run.onRegister fun _ _ => run
    | _ => exact run

theorem IsRun.registersAfter (run : IsRun subject registers)
    (fits : subject.shapes.length = subject.layout.keys.length) {steps : List Step}
    (free : ∀ step ∈ steps, constructs step = false) :
    IsRun subject (registersAfter subject registers steps) := by
  induction steps generalizing registers with
  | nil => exact run
  | cons first rest ih =>
      exact ih (run.step fits (free first (.head _))) fun step member =>
        free step (.tail _ member)

/-- A session that leaves the constructor alone is a run. -/
theorem isRun_registersAfter (fits : subject.shapes.length = subject.layout.keys.length)
    {steps : List Step} (free : ∀ step ∈ steps, constructs step = false) :
    IsRun subject (registersAfter subject [] steps) :=
  IsRun.registersAfter ⟨.empty, .start, fun _ => rfl⟩ fits free

end Session

/-! ### Values after a run -/

/-- What is known of the values that a run leaves behind, those inside of payloads included, and of
the registers after a session. -/
structure SingleOccupancy (type : SlotType α β) (subject : Subject) : Prop where
  runs : ∀ memory, type.Reached memory → ∀ tracked, type.Holds memory tracked →
    tracked.IsTraced type.keys
  sessions : ∀ steps, (∀ step ∈ steps, Session.constructs step = false) →
    ∃ memory, subject.slotType.Reached memory ∧
      Session.Mirrors (Session.registersAfter subject [] steps) memory ∧
      ∀ name tracked, memory.registers name = some tracked →
        tracked.IsTraced subject.layout.keys

/-- Without the constructor itself, values occupy the one slot that their factory filled, or the one
of the key that they were read from, or they were read from an empty map. -/
theorem single_occupancy (type : SlotType α β) {subject : Subject}
    (fits : subject.shapes.length = subject.layout.keys.length) :
    SingleOccupancy type subject where
  runs memory reached tracked held := reached.isTraced held
  sessions steps free := by
    obtain ⟨memory, reached, mirrors⟩ := Session.isRun_registersAfter fits free
    exact ⟨memory, reached, mirrors, fun name tracked found => reached.isTraced (.register found)⟩

/-- A number, or a box around a value whose slots hold such terms. -/
inductive Term where
  | number (value : Int)
  | boxed (origin : Origin Term) (slots : List (Option Term))

namespace Term

def keys : List String := ["literal", "negated"]

def ofNumber : Json → Reading Term
  | .number (.integer value) => .ok (.number value)
  | other => .error (other.mismatch "i64")

/-- Reads a box around a number. -/
def ofBox (json : Json) : Reading Term :=
  (Slots.readWith keys (fun _ => ofNumber) json).map (.boxed (.read json))

def inside : Term → List (Tracked Term Unit)
  | number _ => []
  | boxed origin slots => [⟨origin, slots, ()⟩]

theorem not_within_ofNumber {json : Json} {term : Term} {inner : Tracked Term Unit}
    (read : ofNumber json = .ok term) : ¬ Within inside term inner := by
  have empty : term.inside = [] := by
    unfold ofNumber at read
    split at read
    · cases read
      rfl
    · cases read
  intro within
  cases within with
  | here member => simp [empty] at member
  | deeper member => simp [empty] at member

theorem within_ofBox {json : Json} {term : Term} {inner : Tracked Term Unit}
    (read : ofBox json = .ok term) (within : Within inside term inner) : inner.IsRead keys := by
  obtain ⟨slots, accepted, rfl⟩ := map_eq_ok.mp read
  cases within with
  | here member =>
      obtain rfl := List.mem_singleton.mp member
      exact ⟨json, _, rfl, accepted⟩
  | deeper member occupied within =>
      obtain rfl := List.mem_singleton.mp member
      rcases Slots.readWith_ok accepted with ⟨-, rfl⟩ | ⟨_, _, part, -, number, rfl⟩
      · cases Slots.vacant_allEmpty _ _ occupied
      · exact absurd (Slots.mem_only occupied ▸ within) (not_within_ofNumber number)

def slotType : SlotType Term Unit where
  keys := keys
  construct slots := ⟨slots, ()⟩
  stores _ := rfl
  decode index json := if index = 0 then ofNumber json else ofBox json
  inside := inside
  readsInside index json payload decoded inner within := by
    split at decoded
    · exact absurd within (not_within_ofNumber decoded)
    · exact within_ofBox decoded within

def one : Tracked Term Unit := ⟨.made 0 (number 1), [some (number 1), none], ()⟩

def boxedOne : Term := boxed one.origin one.value.slots

def negated : Tracked Term Unit := ⟨.made 1 boxedOne, [none, some boxedOne], ()⟩

def made : Memory Term Unit := slotType.perform .empty (.make "number" 0 (number 1))

def wrapped : Memory Term Unit := slotType.perform made (.make "box" 1 boxedOne)

/-- A number was made, put into a box, and not found where the box is. -/
def rejected : Memory Term Unit := slotType.perform wrapped (.takeOut "box" 0)

theorem holds_one : slotType.Holds made one :=
  have found : made.registers "number" = some one := rfl
  .register found

theorem reached_rejected : slotType.Reached rejected := by
  have number : slotType.Allowed .empty (.make "number" 0 (.number 1)) := ⟨by decide, nofun⟩
  have box : slotType.Allowed made (.make "box" 1 boxedOne) := by
    refine ⟨by decide, fun inner member => ?_⟩
    obtain rfl : inner = one := List.mem_singleton.mp member
    exact holds_one
  exact .step (.step (.step .start number) box) trivial

end Term

def expressionSubject : Subject where
  layout :=
    { path := "crate::Expr", variants := ["Literal", "Negated"], keys := ["literal", "negated"]
      payloadTypes := ["i64", "Box<Expr>"], conversions := [⟨true, true⟩, ⟨true, false⟩]
      boxesOwner := [false, true], equalities := ⟨false, true⟩, wire := true, clone := false }
  shapes := [.integer ⟨true, 8⟩, .record "Expr"]
  extra := none

theorem single_occupancy_terms :
    expressionSubject.shapes.length = expressionSubject.layout.keys.length ∧
      SingleOccupancy Term.slotType expressionSubject ∧ Term.slotType.Reached Term.rejected ∧
      Term.slotType.Holds Term.rejected Term.negated ∧
      Term.slotType.Holds Term.rejected Term.one := by
  have occupancy : SingleOccupancy Term.slotType expressionSubject :=
    single_occupancy Term.slotType rfl
  have found : Term.rejected.registers "box" = some Term.negated := rfl
  exact ⟨rfl, occupancy, Term.reached_rejected, .register found,
    .nested found (.tail _ (.head _)) (.here (List.mem_singleton_self _))⟩

end SlotSum
