import SlotSum.Proofs.Expansion.Behaviour
import SlotSum.Proofs.Value.Equality

/-!
What the equality and the hashing of an expansion do. One instance equals itself, and otherwise two
values are equal as their slots are; a value feeds to a hasher the bytes of its slots.
-/

namespace SlotSum

open Program

/-! ### Hashers -/

namespace Program.World

variable {m : Type → Type} {α β γ : Type}

/-- What a slot feeds to a hasher. -/
def feedSlot (world : World m α β γ) : Option α → m Unit
  | some payload => world.hash payload
  | none => world.hashByte 0

/-- A hasher that collects what it is fed. -/
def collecting (world : World (StateM (List UInt8)) α β γ) (feed : α → List UInt8) :
    World (StateM (List UInt8)) α β γ :=
  { world with
    hash := fun payload => modify (· ++ feed payload)
    hashByte := fun byte => modify (· ++ [byte]) }

theorem forM_feedSlot (world : World (StateM (List UInt8)) α β γ) (feed : α → List UInt8)
    (slots : Slots α) :
    slots.forM (world.collecting feed).feedSlot = modify (· ++ Slots.bytes feed slots) := by
  induction slots with
  | nil =>
      have nothing : (fun fed : List UInt8 => fed ++ Slots.bytes feed []) = id :=
        funext List.append_nil
      rw [nothing]
      rfl
  | cons slot rest ih =>
      have head : (world.collecting feed).feedSlot slot =
          modify (· ++ (slot.map feed).getD [0]) := by
        cases slot <;> rfl
      have whole : (fun fed : List UInt8 => fed ++ Slots.bytes feed (slot :: rest)) =
          fun fed => fed ++ (slot.map feed).getD [0] ++ Slots.bytes feed rest :=
        funext fun fed => (List.append_assoc ..).symm
      rw [whole, List.forM_eq_forM, List.forM_cons, ← List.forM_eq_forM, head, ih]
      rfl

end Program.World

namespace Schema

variable {schema : Schema} {m : Type → Type} [Monad m] {α β γ : Type} {world : World m α β γ}
  {env : Env m α β γ} {index : Nat} {slot : Slot} {owner : Ty}

/-! ### Slots but one -/

/-- Both values leave slots empty. -/
def vacancies (slots : List Slot) : List Program.Expr :=
  slots.map fun slot =>
    .all [.isNone (.slot "self" slot.name.text), .isNone (.slot "other" slot.name.text)]

def otherSlots (schema : Schema) (slot : Slot) : List Slot :=
  schema.slots.filter fun other => other.name.text != slot.name.text

omit [Monad m] in
theorem trees_vacancies (slot : Slot) :
    (Expr.all (vacancies (schema.otherSlots slot))).trees owner = schema.othersVacant slot := by
  rw [othersVacant, ← otherSlots]
  cases schema.otherSlots slot with
  | nil => rfl
  | cons first rest =>
      have printed := treesEach_eq_map owner (vacancies (first :: rest))
      rw [vacancies, List.map_map] at printed
      exact congrArg (fun each => Tree.seq (each.intersperse [.leaf "&&" false])) printed

omit [Monad m] in
theorem mem_otherSlots_iff (stems : (schema.slots.map Slot.stem).Nodup)
    (here : schema.slots[index]? = some slot) {other : Slot} :
    other ∈ schema.otherSlots slot ↔
      ∃ place, schema.slots[place]? = some other ∧ place ≠ index := by
  rw [otherSlots, filter_otherNames (fieldNames_nodup stems) here, List.mem_eraseIdx_iff_getElem?]
  simp only [and_comm]

theorem run_vacancies (stems : (schema.slots.map Slot.stem).Nodup) (serves : world.Serves schema)
    {left right : Value α β} (holdsLeft : env.lookup "self" = some (.owner left))
    (holdsRight : env.lookup "other" = some (.owner right)) (empty : Slot → Bool)
    (each : ∀ place slot, schema.slots[place]? = some slot →
      empty slot = ((left.slots.payloadAt place).isNone && (right.slots.payloadAt place).isNone))
    {slots : List Slot} (among : ∀ slot ∈ slots, slot ∈ schema.slots) (next : Next m α β γ) :
    Expr.runAll world (vacancies slots) env next = next (.flag (slots.all empty)) env := by
  induction slots with
  | nil => rfl
  | cons first rest ih =>
      obtain ⟨member, among⟩ := List.forall_mem_cons.mp among
      obtain ⟨place, here⟩ := List.mem_iff_getElem?.mp member
      have field := place_field stems here serves
      have behind := ih among
      rw [List.all_cons, each place first here]
      rw [vacancies] at behind ⊢
      cases own : left.slots.payloadAt place with
      | some payload => simp [holdsLeft, field, own]
      | none =>
          cases others : right.slots.payloadAt place with
          | some payload => simp [holdsLeft, holdsRight, field, own, others]
          | none => simp [holdsLeft, holdsRight, field, own, others, behind]

omit [Monad m] in
/-- Slots but one are empty in both values just if they are so in each. -/
theorem all_otherSlots (stems : (schema.slots.map Slot.stem).Nodup)
    (here : schema.slots[index]? = some slot) {left right : Slots α}
    (widthLeft : left.length = schema.slots.length)
    (widthRight : right.length = schema.slots.length) {empty : Slot → Bool}
    (each : ∀ place slot, schema.slots[place]? = some slot →
      empty slot = ((left.payloadAt place).isNone && (right.payloadAt place).isNone)) :
    (schema.otherSlots slot).all empty =
      (left.othersVacant index && right.othersVacant index) := by
  rw [Bool.eq_iff_iff, List.all_eq_true, Bool.and_eq_true, Slots.othersVacant_iff_payloadAt,
    Slots.othersVacant_iff_payloadAt, ← forall₂_and]
  constructor
  · intro all place apart
    cases there : schema.slots[place]? with
    | none =>
        rw [List.getElem?_eq_none_iff] at there
        simp [Slots.payloadAt, widthLeft, widthRight, there]
    | some other =>
        have empty := all other ((mem_otherSlots_iff stems here).mpr ⟨place, there, apart⟩)
        simpa [each place other there] using empty
  · intro empty other member
    obtain ⟨place, there, apart⟩ := (mem_otherSlots_iff stems here).mp member
    obtain ⟨left, right⟩ := empty place apart
    simp [each place other there, left, right]

theorem run_otherSlots (stems : (schema.slots.map Slot.stem).Nodup)
    (here : schema.slots[index]? = some slot) (serves : world.Serves schema)
    {left right : Value α β} (widthLeft : left.slots.length = schema.slots.length)
    (widthRight : right.slots.length = schema.slots.length) (env : Env m α β γ)
    (holdsLeft : env.lookup "self" = some (.owner left))
    (holdsRight : env.lookup "other" = some (.owner right)) (next : Next m α β γ) :
    Expr.runAll world (vacancies (schema.otherSlots slot)) env next =
      next (.flag (left.slots.othersVacant index && right.slots.othersVacant index)) env := by
  let empty (slot : Slot) : Bool :=
    (world.fields.idxOf? slot.name.text).all fun place =>
      (left.slots.payloadAt place).isNone && (right.slots.payloadAt place).isNone
  have each (place : Nat) (slot : Slot) (there : schema.slots[place]? = some slot) :
      empty slot =
        ((left.slots.payloadAt place).isNone && (right.slots.payloadAt place).isNone) := by
    simp [empty, place_field stems there serves]
  rw [← all_otherSlots stems here widthLeft widthRight each]
  exact run_vacancies stems serves holdsLeft holdsRight empty each
    (fun other member => (List.mem_filter.mp member).1) next

/-! ### Equality -/

def equalCheck (schema : Schema) (slot : Slot) : Block → Block :=
  .ifLet (.pair (.present (.name "left")) (.present (.name "right")))
    (.pair (.borrowed (.slot "self" slot.name.text)) (.borrowed (.slot "other" slot.name.text)))
    (.ifThen (.all (vacancies (schema.otherSlots slot)))
      (.returning (.equal (.variable "left") (.variable "right"))) .done)

theorem run_equalCheck (stems : (schema.slots.map Slot.stem).Nodup) (serves : world.Serves schema)
    {left right : Value α β} (widthLeft : left.slots.length = schema.slots.length)
    (widthRight : right.slots.length = schema.slots.length)
    (here : schema.slots[index]? = some slot) (rest : Block)
    (next : Env m α β γ → m (Outcome m α β γ)) :
    (schema.equalCheck slot rest).run world [("self", .owner left), ("other", .owner right)] next =
      ((Slots.agreementAt (left.slots.transform world.same) right.slots index).map fun verdict =>
        pure (some (.flag verdict))).getD
          (rest.run world [("self", .owner left), ("other", .owner right)] next) := by
  have place := place_field stems here serves
  cases own : left.slots.payloadAt index with
  | none => simp [equalCheck, place, own, Slots.agreementAt, List.lookup_cons]
  | some payload =>
      cases others : right.slots.payloadAt index with
      | none => simp [equalCheck, place, own, others, Slots.agreementAt, List.lookup_cons]
      | some payload' =>
          have vacant := run_otherSlots stems here serves widthLeft widthRight
            [("left", .payload payload), ("right", .payload payload'), ("self", .owner left),
              ("other", .owner right)] rfl rfl
          cases alone : left.slots.othersVacant index && right.slots.othersVacant index with
          | true =>
              simp [equalCheck, place, own, others, Slots.agreementAt, List.lookup_cons, vacant,
                alone]
          | false =>
              simp [equalCheck, place, own, others, Slots.agreementAt, List.lookup_cons, vacant,
                alone]

def equalProgram (schema : Schema) : Body where
  block := .ifThen (.identical (.variable "self") (.variable "other")) (.returning (.flag true))
    (scan schema.slots fun slot _ => schema.equalCheck slot)
  result := some (.flag false)

theorem partialEquality_does (stems : (schema.slots.map Slot.stem).Nodup)
    (serves : world.Serves schema) {left right : Value α β}
    (widthLeft : left.slots.length = schema.slots.length)
    (widthRight : right.slots.length = schema.slots.length) :
    ∃ function, schema.partialEquality.functions = [function] ∧
      function.Does owner schema.equalProgram world [.owner left, .owner right]
        (pure (some (.flag
          (world.identical || Slots.same world.same left.slots right.slots)))) := by
  refine ⟨_, rfl, ?_, ?_⟩
  · simp only [equalProgram, Body.trees, Block.trees]
    rw [trees_scan fun slot _ => schema.equalityArm slot, flatMap_zipIdx]
    · simp [Tree.seq]
    · intro slot index rest
      have words : Tree.words "left == right" =
          [.leaf "left" false, .leaf "==" false, .leaf "right" false] := rfl
      rw [equalCheck, Block.trees, Block.trees, trees_vacancies]
      simp [equalityArm, Slot.borrowed, Slot.of, Tree.seq, words]
  · change Body.run world schema.equalProgram [("self", .owner left), ("other", .owner right)] = _
    cases identical : world.identical with
    | true => simp [equalProgram, Body.run, identical, List.lookup_cons]
    | false =>
        have decided := run_scan _ _ (fun slot index rest next here =>
          run_equalCheck stems serves widthLeft widthRight here rest next)
          fun _ => pure (some (.flag false))
        have width : (left.slots.transform world.same).length = schema.slots.length :=
          (List.length_map ..).trans widthLeft
        rw [Slots.same, Slots.agree, width]
        have whole : Body.run world schema.equalProgram
            [("self", .owner left), ("other", .owner right)] =
              (scan schema.slots fun slot _ => schema.equalCheck slot).run world
                [("self", .owner left), ("other", .owner right)]
                fun _ => pure (some (.flag false)) := by
          simp [equalProgram, Body.run, identical, List.lookup_cons]
        rw [whole, decided]
        cases List.findSome? _ _ <;> rfl

/-! ### Hashing -/

def hashProgram (schema : Schema) : Body where
  block := scan schema.slots fun slot _ =>
    .cases (.borrowed (.slot "self" slot.name.text)) "payload"
      (.hashed (.variable "payload") (.variable "state"))
      (.hashed (.borrowed (.byte 0)) (.variable "state"))
  result := none

theorem hashing_does [LawfulMonad m] (owner : Ty) {value : Value α β}
    (stems : (schema.slots.map Slot.stem).Nodup) (serves : world.Serves schema)
    (width : value.slots.length = schema.slots.length) :
    ∃ function, schema.hashing.functions = [function] ∧
      function.Does owner schema.hashProgram world [.owner value, .device]
        (do
          value.slots.forM world.feedSlot
          return some .unit) := by
  refine ⟨_, rfl, ?_, ?_⟩
  · simp only [hashProgram, Body.trees]
    rw [trees_scan fun slot _ => hashArm slot, flatMap_zipIdx]
    · simp [Tree.seq]
    · intro slot index rest
      have zero : Tree.words "& 0u8" =
          [.leaf "&" false, .leaf (toString (0 : UInt8).toNat ++ "u8") false] := rfl
      simp [hashArm, Slot.borrowed, Slot.of, Tree.seq, zero]
  · change Body.run world schema.hashProgram [("self", .owner value), ("state", .device)] = _
    rw [hashProgram, Body.run,
      run_scan_forM fun index => world.feedSlot (value.slots.payloadAt index)]
    · rw [← width, List.forM_eq_forM, ← List.forM_map, Slots.map_payloadAt]
      rfl
    · intro slot index rest next here
      have place := place_field stems here serves
      cases held : value.slots.payloadAt index with
      | some payload => simp [place, held, World.feedSlot, List.lookup_cons]
      | none => simp [place, held, World.feedSlot, List.lookup_cons]

/-- A hasher that collects what it is fed has the bytes of the slots in the end. -/
theorem hashing_feeds {world : World (StateM (List UInt8)) α β γ} (feed : α → List UInt8)
    {value : Value α β} (stems : (schema.slots.map Slot.stem).Nodup) (serves : world.Serves schema)
    (width : value.slots.length = schema.slots.length) :
    ∃ function, schema.hashing.functions = [function] ∧
      function.Does owner schema.hashProgram (world.collecting feed) [.owner value, .device]
        (do
          modify (· ++ Slots.bytes feed value.slots)
          return some .unit) := by
  have serves : (world.collecting feed).Serves schema := ⟨serves.fields, serves.factories⟩
  obtain ⟨function, sole, body, run⟩ := hashing_does owner stems serves width
  exact ⟨function, sole, body, run.trans (by rw [World.forM_feedSlot])⟩

end Schema

end SlotSum
