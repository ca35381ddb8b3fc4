import Mathlib.Order.Nat
import SlotSum.Proofs.Value.FirstOccupied

/-!
Dispatch with handlers for some of the slots. Exactly one callable runs: the handler of the first
slot that is occupied and has one, or the default if there is no such slot. An occupied slot without
a handler is passed over. Which callables run is read off a run of callables that report themselves.
-/

namespace SlotSum.Slots

/-- A call that a dispatch makes: of the handler of a slot with its payload, or of the default. -/
inductive Called (α : Type) where
  | handler (index : Nat) (payload : α)
  | default

/-- The slot is occupied and has a handler. -/
def IsEligible (slots : Slots α) (handlers : List (Option (α → β))) (index : Nat) : Prop :=
  (∃ payload, slots[index]? = some (some payload)) ∧
    ∃ handler, handlers[index]? = some (some handler)

/-- The call that a dispatch has to make, and what comes of it. -/
inductive Chosen (slots : Slots α) (handlers : List (Option (α → β))) (default : β) :
    Called α → β → Prop
  | handler (occupied : slots[index]? = some (some payload))
      (handled : handlers[index]? = some (some handler))
      (least : ∀ earlier < index, ¬ slots.IsEligible handlers earlier) :
      Chosen slots handlers default (.handler index payload) (handler payload)
  | default (nowhere : ∀ index, ¬ slots.IsEligible handlers index) :
      Chosen slots handlers default .default default

section

variable {slots : Slots α} {handlers handlers' : List (Option (α → β))} {default : β}
  {called called' : Called α} {result result' : β} {index : Nat} {payload : α}

theorem exists_chosen (slots : Slots α) (handlers : List (Option (α → β))) (default : β) :
    ∃ called result, slots.Chosen handlers default called result := by
  classical
  by_cases somewhere : ∃ index, slots.IsEligible handlers index
  · obtain ⟨⟨payload, occupied⟩, handler, handled⟩ := Nat.find_spec somewhere
    exact ⟨_, _, .handler occupied handled fun _ => Nat.find_min somewhere⟩
  · exact ⟨_, _, .default fun index eligible => somewhere ⟨index, eligible⟩⟩

theorem Chosen.isEligible (chosen : slots.Chosen handlers default (.handler index payload) result) :
    slots.IsEligible handlers index := by
  cases chosen with
  | handler occupied handled => exact ⟨⟨_, occupied⟩, _, handled⟩

theorem Chosen.eq_default_iff (chosen : slots.Chosen handlers default called result) :
    called = .default ↔ ∀ index, ¬ slots.IsEligible handlers index := by
  cases chosen with
  | handler occupied handled =>
      exact ⟨nofun, fun nowhere => absurd ⟨⟨_, occupied⟩, _, handled⟩ (nowhere _)⟩
  | default nowhere => exact ⟨fun _ => nowhere, fun _ => rfl⟩

theorem Chosen.unique (chosen : slots.Chosen handlers default called result)
    (chosen' : slots.Chosen handlers default called' result') :
    called' = called ∧ result' = result := by
  cases chosen with
  | @handler index payload handler occupied handled least =>
      cases chosen' with
      | @handler index' payload' handler' occupied' handled' least' =>
          obtain rfl : index' = index := by
            rcases Nat.lt_trichotomy index' index with before | same | after
            · exact absurd ⟨⟨_, occupied'⟩, _, handled'⟩ (least _ before)
            · exact same
            · exact absurd ⟨⟨_, occupied⟩, _, handled⟩ (least' _ after)
          rw [occupied, Option.some.injEq, Option.some.injEq] at occupied'
          rw [handled, Option.some.injEq, Option.some.injEq] at handled'
          exact ⟨by rw [occupied'], by rw [occupied', handled']⟩
      | default nowhere => exact absurd ⟨⟨_, occupied⟩, _, handled⟩ (nowhere _)
  | default nowhere =>
      cases chosen' with
      | handler occupied handled => exact absurd ⟨⟨_, occupied⟩, _, handled⟩ (nowhere _)
      | default => exact ⟨rfl, rfl⟩

/-! ### Other handlers -/

/-- The call stays the same with other handlers, as long as the slot that is served keeps its
handler and no slot before it gets one that it had not. -/
theorem Chosen.of_handlers (chosen : slots.Chosen handlers default called result)
    (kept : ∀ index payload, called = .handler index payload →
      handlers'[index]? = handlers[index]?)
    (fewer : ∀ index, (∀ served payload, called = .handler served payload → index < served) →
      slots.IsEligible handlers' index → slots.IsEligible handlers index) :
    slots.Chosen handlers' default called result := by
  cases chosen with
  | @handler index payload handler occupied handled least =>
      refine .handler occupied ((kept index payload rfl).trans handled) fun earlier before => ?_
      refine mt (fewer earlier ?_) (least earlier before)
      rintro _ _ ⟨⟩
      exact before
  | default nowhere => exact .default fun index => mt (fewer index nofun) (nowhere index)

/-- A handler of a slot that is empty, or that is behind the one that is served, does not matter. -/
theorem Chosen.set (chosen : slots.Chosen handlers default called result)
    (unreached : slots[index]? = some none ∨
      ∃ served payload, called = .handler served payload ∧ served < index)
    (handler? : Option (α → β)) :
    slots.Chosen (handlers.set index handler?) default called result := by
  have same {other : Nat} (differ : index ≠ other) :
      (handlers.set index handler?)[other]? = handlers[other]? := List.getElem?_set_ne differ
  refine chosen.of_handlers (fun other payload own => same ?_) fun other before eligible => ?_
  · rintro rfl
    rcases unreached with empty | ⟨served, payload', own', before⟩
    · obtain ⟨⟨_, occupied⟩, -⟩ := (own ▸ chosen).isEligible
      simp [empty] at occupied
    · cases own.symm.trans own'
      exact absurd before (Nat.lt_irrefl _)
  · have differ : index ≠ other := by
      rintro rfl
      rcases unreached with empty | ⟨served, payload', own', after⟩
      · obtain ⟨⟨_, occupied⟩, -⟩ := eligible
        simp [empty] at occupied
      · exact absurd (before served payload' own') (by omega)
    rwa [IsEligible, same differ] at eligible

/-- A slot that is not served does not need its handler. -/
theorem Chosen.remove (chosen : slots.Chosen handlers default called result)
    (other : ∀ payload, called ≠ .handler index payload) :
    slots.Chosen (handlers.set index none) default called result := by
  refine chosen.of_handlers (fun served payload own => ?_) fun place _ eligible => ?_
  · refine List.getElem?_set_ne ?_
    rintro rfl
    exact other payload own
  · obtain ⟨occupied, handler, handled⟩ := eligible
    refine ⟨occupied, handler, ?_⟩
    rw [List.getElem?_set] at handled
    split at handled
    · split at handled <;> cases handled
    · exact handled

/-! ### The dispatch -/

theorem isEligible_succ {slot : Option α} {handler? : Option (α → β)} :
    IsEligible (slot :: slots) (handler? :: handlers) (index + 1) ↔
      slots.IsEligible handlers index := by
  simp [IsEligible]

/-- A slot that is not served is passed over. -/
theorem mapOrElse_cons {default : Unit → β} {slot : Option α} {handler? : Option (α → β)}
    (skipped : ¬ IsEligible (slot :: slots) (handler? :: handlers) 0) :
    mapOrElse default (slot :: slots) (handler? :: handlers) =
      mapOrElse default slots handlers := by
  cases slot with
  | none => rfl
  | some payload =>
      cases handler? with
      | none => rfl
      | some handler => exact absurd ⟨⟨payload, rfl⟩, handler, rfl⟩ skipped

theorem mapOrElse_of_least {default : Unit → β} {handler : α → β}
    (occupied : slots[index]? = some (some payload))
    (handled : handlers[index]? = some (some handler))
    (least : ∀ earlier < index, ¬ slots.IsEligible handlers earlier) :
    slots.mapOrElse default handlers = handler payload := by
  induction slots generalizing handlers index with
  | nil => cases occupied
  | cons slot rest ih =>
      cases handlers with
      | nil => cases handled
      | cons handler? more =>
          cases index with
          | zero =>
              cases occupied
              cases handled
              rfl
          | succ index =>
              rw [mapOrElse_cons (least 0 (by omega))]
              exact ih occupied handled fun earlier before eligible =>
                least (earlier + 1) (by omega) (isEligible_succ.mpr eligible)

theorem mapOrElse_eq_findSome? (default : Unit → β) (slots : Slots α)
    {handlers : List (Option (α → β))} (lengths : handlers.length = slots.length) :
    slots.mapOrElse default handlers =
      ((List.range slots.length).findSome? fun index =>
        (slots.payloadAt index).bind fun payload =>
          (handlers[index]?.join).map fun handler => handler payload).getD (default ()) := by
  induction slots generalizing handlers with
  | nil => simp [mapOrElse]
  | cons slot rest ih =>
      cases handlers with
      | nil => simp at lengths
      | cons handler? more =>
          have behind := @ih more (by simpa using lengths)
          rw [List.length_cons, findSome?_range_succ]
          cases slot with
          | none => exact behind
          | some payload =>
              cases handler? with
              | none => exact behind
              | some handler => rfl

theorem mapOrElse_of_nowhere {default : Unit → β}
    (nowhere : ∀ index, ¬ slots.IsEligible handlers index) :
    slots.mapOrElse default handlers = default () := by
  induction slots generalizing handlers with
  | nil => simp [mapOrElse]
  | cons slot rest ih =>
      cases handlers with
      | nil => simp [mapOrElse]
      | cons handler? more =>
          rw [mapOrElse_cons (nowhere 0)]
          exact ih fun index eligible => nowhere (index + 1) (isEligible_succ.mpr eligible)

theorem Chosen.mapOrElse (chosen : slots.Chosen handlers default called result) :
    slots.mapOrElse (fun _ => default) handlers = result := by
  cases chosen with
  | handler occupied handled least => exact mapOrElse_of_least occupied handled least
  | default nowhere => exact mapOrElse_of_nowhere nowhere

end

/-! ### Reported calls -/

section

variable {m : Type → Type} [Monad m] {α γ : Type} {slots : Slots α}
  {handlers : List (Option (α → m γ))} {default action : m γ} {called : Called α}

/-- An action that reports the call that it comes from before it runs. -/
def reported (called : Called α) (action : m γ) : StateT (List (Called α)) m γ := do
  modify (· ++ [called])
  action

def reportedHandlers (handlers : List (Option (α → m γ))) :
    List (Option (α → StateT (List (Called α)) m γ)) :=
  handlers.mapIdx fun index handler? =>
    handler?.map fun handler payload => reported (.handler index payload) (handler payload)

theorem run_reported [LawfulMonad m] (called : Called α) (action : m γ)
    (before : List (Called α)) :
    (reported called action).run before =
      (fun result => (result, before ++ [called])) <$> action := by
  simp [reported]

theorem getElem?_reportedHandlers (handlers : List (Option (α → m γ))) (index : Nat) :
    (reportedHandlers handlers)[index]? =
      handlers[index]?.map (Option.map fun handler payload =>
        reported (.handler index payload) (handler payload)) :=
  List.getElem?_mapIdx

theorem isEligible_reportedHandlers {index : Nat} :
    slots.IsEligible (reportedHandlers handlers) index ↔ slots.IsEligible handlers index := by
  rw [IsEligible, IsEligible, getElem?_reportedHandlers]
  cases handlers[index]? with
  | none => simp
  | some handler? => cases handler? <;> simp

theorem Chosen.reported (chosen : slots.Chosen handlers default called action) :
    slots.Chosen (reportedHandlers handlers) (Slots.reported .default default) called
      (Slots.reported called action) := by
  cases chosen with
  | @handler index payload handler occupied handled least =>
      have reports : (reportedHandlers handlers)[index]? =
          some (some fun payload =>
            Slots.reported (.handler index payload) (handler payload)) := by
        rw [getElem?_reportedHandlers, handled]
        rfl
      exact .handler occupied reports fun earlier before =>
        mt isEligible_reportedHandlers.mp (least earlier before)
  | default nowhere =>
      exact .default fun index => mt isEligible_reportedHandlers.mp (nowhere index)

/-- The dispatch to a result comes down to one call. With callables that report themselves it makes
that call and no other one. -/
structure Maps (slots : Slots α) (handlers : List (Option (α → m γ))) (default : m γ)
    (called : Called α) (action : m γ) : Prop where
  result : slots.mapOrElse (fun _ => default) handlers = action
  calls :
    (slots.mapOrElse (fun _ => reported .default default) (reportedHandlers handlers)).run [] =
      (fun result => (result, [called])) <$> action

/-- The dispatch without a result comes down to one call, in the same way. -/
structure Visits (slots : Slots α) (handlers : List (Option (α → m Unit))) (default : m Unit)
    (called : Called α) (action : m Unit) : Prop where
  result : slots.visitOrElse default handlers = action
  calls : (slots.visitOrElse (reported .default default) (reportedHandlers handlers)).run [] =
    (fun result => (result, [called])) <$> action

theorem Chosen.maps [LawfulMonad m] (chosen : slots.Chosen handlers default called action) :
    slots.Maps handlers default called action where
  result := chosen.mapOrElse
  calls := by rw [chosen.reported.mapOrElse, run_reported, List.nil_append]

end

/-- A dispatch without a result runs what the dispatch to an action gives. -/
theorem visitOrElse_eq_mapOrElse {m : Type → Type} (default : m Unit) (slots : Slots α)
    (handlers : List (Option (α → m Unit))) :
    slots.visitOrElse default handlers = slots.mapOrElse (fun _ => default) handlers := by
  induction slots generalizing handlers with
  | nil => simp [visitOrElse, mapOrElse]
  | cons slot rest ih =>
      cases handlers with
      | nil => simp [visitOrElse, mapOrElse]
      | cons handler? more =>
          cases slot with
          | none => exact ih more
          | some payload =>
              cases handler? with
              | none => exact ih more
              | some handler => rfl

theorem Maps.visits {m : Type → Type} [Monad m] {α : Type} {slots : Slots α}
    {handlers : List (Option (α → m Unit))} {default action : m Unit} {called : Called α}
    (maps : slots.Maps handlers default called action) :
    slots.Visits handlers default called action where
  result := (visitOrElse_eq_mapOrElse default slots handlers).trans maps.result
  calls := by
    rw [visitOrElse_eq_mapOrElse]
    exact maps.calls

/-- A dispatch with handlers for some of the slots makes exactly one call: of the handler of the
first slot that is occupied and has one, with its payload, or of the default if there is no such
slot. It makes the same call with a handler more or less for a slot that is empty or behind the one
that is served, and with a handler less for any other slot than that one. -/
theorem partial_dispatch {m : Type → Type} [Monad m] [LawfulMonad m] {α : Type} (slots : Slots α) :
    (∀ (γ : Type) (handlers : List (Option (α → m γ))) (default : m γ),
      (∃ called action, slots.Chosen handlers default called action) ∧
      ∀ (called : Called α) (action : m γ), slots.Chosen handlers default called action →
        (∀ (called' : Called α) (action' : m γ),
          slots.Chosen handlers default called' action' → called' = called ∧ action' = action) ∧
        (called = .default ↔ ∀ index, ¬ slots.IsEligible handlers index) ∧
        slots.Maps handlers default called action ∧
        (∀ (index : Nat) (handler? : Option (α → m γ)),
          slots[index]? = some none ∨
            (∃ served payload, called = .handler served payload ∧ served < index) →
          slots.Maps (handlers.set index handler?) default called action) ∧
        ∀ index : Nat, (∀ payload, called ≠ .handler index payload) →
          slots.Maps (handlers.set index none) default called action) ∧
    ∀ (handlers : List (Option (α → m Unit))) (default action : m Unit) (called : Called α),
      slots.Maps handlers default called action → slots.Visits handlers default called action := by
  refine ⟨fun γ handlers default => ⟨exists_chosen slots handlers default, ?_⟩,
    fun _ _ _ _ => Maps.visits⟩
  intro called action chosen
  exact ⟨fun _ _ => chosen.unique, chosen.eq_default_iff, chosen.maps,
    fun _ handler? unreached => (chosen.set unreached handler?).maps,
    fun _ other => (chosen.remove other).maps⟩

/-- The first slot is occupied but has no handler, so the second one is served, whether or not the
empty slot behind it has a handler. -/
theorem partial_dispatch_skips :
    let slots : Slots Nat := [some 1, some 2, none]
    let add : Nat → StateM Nat Unit := fun payload => modify (· + payload)
    slots.Visits [none, some add, none] (set 0) (.handler 1 2) (add 2) ∧
      slots.Visits [none, some add, some add] (set 0) (.handler 1 2) (add 2) ∧
      ∀ index ≠ 1, slots.Visits ([none, some add, none].set index none) (set 0) (.handler 1 2)
        (add 2) := by
  intro slots add
  have least : ∀ earlier < 1, ¬ slots.IsEligible [none, some add, none] earlier := by
    rintro earlier before ⟨-, handler, handled⟩
    obtain rfl : earlier = 0 := by omega
    cases handled
  have chosen : slots.Chosen [none, some add, none] (set 0) (.handler 1 2) (add 2) :=
    .handler rfl rfl least
  obtain ⟨maps, visits⟩ := partial_dispatch (m := StateM Nat) slots
  obtain ⟨-, -, same, added, removed⟩ := (maps Unit [none, some add, none] (set 0)).2 _ _ chosen
  refine ⟨visits _ _ _ _ same, visits _ _ _ _ (added 2 (some add) (.inl rfl)), ?_⟩
  intro index differ
  refine visits _ _ _ _ (removed index fun payload own => differ ?_)
  cases own
  rfl

end SlotSum.Slots
