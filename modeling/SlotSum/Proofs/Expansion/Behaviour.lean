import SlotSum.Proofs.Expansion.Names
import SlotSum.Proofs.Expansion.Program
import SlotSum.Proofs.Schema.Reflexive
import SlotSum.Proofs.Value.PartialDispatch

/-!
What the functions of the owner and its conversions do. The body of each is the text of a program,
and the program, run on the inputs of the function, does what its name says with the slots of a
value. It finds slots, factories and handlers by names, which differ as the stems of the slots do.
-/

namespace SlotSum

open Program

@[simp] def Receiver.names : Receiver → List String
  | absent => []
  | shared => ["self"]
  | owned => ["self"]

namespace Function

@[simp] def inputNames (function : Function) : List String :=
  function.receiver.names ++ function.parameters.map Parameter.name

/-- The body of a function is the text of a program, which has an outcome when it is run on the
inputs of the function. -/
structure Does {m : Type → Type} [Monad m] {α β γ : Type} (function : Function) (owner : Ty)
    (program : Body) (world : World m α β γ) (inputs : List (Meaning m α β γ))
    (outcome : m (Outcome m α β γ)) : Prop where
  body : function.body = program.trees owner
  run : program.run world (function.inputNames.zip inputs) = outcome

end Function

namespace Program

variable {m : Type → Type} {α β γ δ : Type} {world : World m α β γ} {env : Env m α β γ}

/-- The fields and the factories that generated code finds are those of the slots of a schema. -/
structure World.Serves (world : World m α β γ) (schema : Schema) : Prop where
  fields : world.fields = schema.slots.map fun slot => slot.name.text
  factories : world.factories = schema.slots.map fun slot => slot.method "from"

/-! ### Checks of slots -/

/-- Checks of slots in order. -/
def scan (slots : List Slot) (check : Slot → Nat → Block → Block) : Block :=
  slots.zipIdx.foldr (fun row rest => check row.1 row.2 rest) .done

theorem trees_scan {owner : Ty} {check : Slot → Nat → Block → Block}
    (text : Slot → Nat → List Tree) (slots : List Slot)
    (each : ∀ slot index rest,
      (check slot index rest).trees owner = text slot index ++ rest.trees owner) :
    (scan slots check).trees owner = slots.zipIdx.flatMap fun row => text row.1 row.2 := by
  rw [scan]
  induction slots.zipIdx with
  | nil => rfl
  | cons first rest ih => rw [List.foldr_cons, each, ih, List.flatMap_cons]

theorem flatMap_zipIdx (slots : List Slot) (text : Slot → List Tree) :
    (slots.zipIdx.flatMap fun row => text row.1) = slots.flatMap text := by
  conv_rhs => rw [← List.zipIdx_map_fst 0 slots, List.flatMap_map]

section

variable [Monad m] {slots : List Slot} {check : Slot → Nat → Block → Block}

/-- Where each check does something with what comes of those behind it, so do they all in turn. -/
theorem run_scan_foldr (act : Nat → m (Outcome m α β γ) → m (Outcome m α β γ))
    (each : ∀ slot index rest next, slots[index]? = some slot →
      (check slot index rest).run world env next = act index (rest.run world env next))
    (next : Env m α β γ → m (Outcome m α β γ)) :
    (scan slots check).run world env next = (List.range slots.length).foldr act (next env) := by
  rw [scan, List.range_eq_range', ← List.zipIdx_map_snd 0 slots]
  have place : ∀ row ∈ slots.zipIdx, slots[row.2]? = some row.1 :=
    fun row => List.mem_zipIdx_iff_getElem?.mp
  generalize slots.zipIdx = rows at place ⊢
  induction rows with
  | nil => rfl
  | cons first rest ih =>
      obtain ⟨here, place⟩ := List.forall_mem_cons.mp place
      rw [List.foldr_cons, each _ _ _ _ here, ih place, List.map_cons, List.foldr_cons]

/-- Of checks that have an answer or go on to the next one, the first that has one decides. -/
theorem run_scan (verdict : Nat → Option δ) (answer : δ → m (Outcome m α β γ))
    (each : ∀ slot index rest next, slots[index]? = some slot →
      (check slot index rest).run world env next =
        ((verdict index).map answer).getD (rest.run world env next))
    (next : Env m α β γ → m (Outcome m α β γ)) :
    (scan slots check).run world env next =
      (((List.range slots.length).findSome? verdict).map answer).getD (next env) := by
  rw [run_scan_foldr (fun index rest => ((verdict index).map answer).getD rest) each]
  induction List.range slots.length with
  | nil => rfl
  | cons first rest ih =>
      rw [List.foldr_cons, ih, List.findSome?_cons]
      cases verdict first <;> rfl

/-- Checks that all go on do in turn what each does. -/
theorem run_scan_forM [LawfulMonad m] (act : Nat → m Unit)
    (each : ∀ slot index rest next, slots[index]? = some slot →
      (check slot index rest).run world env next = act index >>= fun _ => rest.run world env next)
    (next : Env m α β γ → m (Outcome m α β γ)) :
    (scan slots check).run world env next =
      (List.range slots.length).forM act >>= fun _ => next env := by
  rw [run_scan_foldr (fun index rest => act index >>= fun _ => rest) each]
  induction List.range slots.length with
  | nil => simp
  | cons first rest ih =>
      rw [List.foldr_cons, ih]
      simp

end

end Program

namespace Schema

variable {schema : Schema} {m : Type → Type} {α β γ δ : Type} {world : World m α β γ}
  {env : Env m α β γ} {value : Value α β} {index : Nat} {slot : Slot} {owner : Ty}

/-! ### Names -/

section

variable (stems : (schema.slots.map Slot.stem).Nodup) (here : schema.slots[index]? = some slot)

include stems here

theorem place_field (serves : world.Serves schema) :
    world.fields.idxOf? slot.name.text = some index := by
  rw [serves.fields]
  exact idxOf?_of_nodup (fieldNames_nodup stems) (by simp [here])

theorem place_factory (serves : world.Serves schema) :
    world.factories.idxOf? (slot.method "from") = some index := by
  rw [serves.factories]
  exact idxOf?_of_nodup (methods_nodup stems "from") (by simp [here])

/-- Handlers of slots are found by their names, behind other names that begin otherwise. -/
theorem lookup_handler {handlers : List (Meaning m α β γ)} {handler : Meaning m α β γ}
    (handled : handlers[index]? = some handler) (others : Env m α β γ)
    (apart : ∀ other ∈ others, other.1.toList.head? ≠ some 'o') :
    (others ++ (schema.slots.map fun slot => slot.method "on").zip handlers).lookup
      (slot.method "on") = some handler := by
  induction others with
  | nil => exact lookup_of_nodup (methods_nodup stems "on") (by simp [here]) handled
  | cons first rest ih =>
      obtain ⟨differ, apart⟩ := List.forall_mem_cons.mp apart
      have differ : slot.method "on" ≠ first.1 :=
        ne_of_head? (by simpa [Slot.toList_method] using differ.symm)
      rw [List.cons_append, List.lookup_cons, beq_false_of_ne differ]
      exact ih apart

end

variable [Monad m]

/-! ### Constructor and factories -/

theorem runEach_map {σ : Type} (rows : List σ) (term : σ → Program.Expr)
    (meaning : σ → Meaning m α β γ)
    (each : ∀ row next, (term row).run world env next = next (meaning row) env)
    (next : List (Meaning m α β γ) → Env m α β γ → m (Outcome m α β γ)) :
    Expr.runEach world (rows.map term) env next = next (rows.map meaning) env := by
  induction rows generalizing next with
  | nil => rfl
  | cons first rest ih => rw [List.map_cons, Expr.runEach, each, ih, List.map_cons]

/-- The constructor fills each slot with its argument. -/
theorem run_new {σ : Type} (rows : List σ) (count : rows.length = world.fields.length)
    (env : Env m α β γ) (term : σ → Program.Expr) (slot : σ → Option α)
    (each : ∀ row next, (term row).run world env next = next (.ofOption (slot row)) env)
    (own : Owner) (next : Next m α β γ) :
    (Expr.new own (rows.map term)).run world env next =
      next (.owner ⟨rows.map slot, world.initial⟩) env := by
  have read : (rows.map fun row => Meaning.ofOption (slot row)).mapM
      (Meaning.optional? (m := m) (β := β) (γ := γ)) = some (rows.map slot) := by
    clear count
    induction rows with
    | nil => rfl
    | cons first rest ih =>
        rw [List.map_cons, List.mapM_cons, ih, List.map_cons]
        cases slot first <;> rfl
  rw [Expr.run, runEach_map rows term _ each, read]
  simp [count]

def constructorProgram (schema : Schema) : Body where
  block := .done
  result := some (.fields (schema.slots.map fun slot => slot.name.text)
    (schema.others.map fun name => name.text))

omit [Monad m] in
/-- Slots are read from inputs by their names. -/
theorem mapM_lookup {names : List String} {slots : Slots α} (lengths : names.length = slots.length)
    (each : ∀ (index : Nat) (name : String), names[index]? = some name →
      env.lookup name = (slots[index]?).map .ofOption) :
    (names.mapM fun name => (env.lookup name).bind Meaning.optional?) = some slots := by
  induction names generalizing slots with
  | nil =>
      obtain rfl := List.eq_nil_of_length_eq_zero lengths.symm
      rfl
  | cons first rest ih =>
      cases slots with
      | nil => cases lengths
      | cons slot slots =>
          have behind := ih (by simpa using lengths) fun index name found =>
            each (index + 1) name found
          have here := each 0 first rfl
          rw [List.mapM_cons, behind, here]
          cases slot <;> rfl

theorem constructorFunction_does (stems : (schema.slots.map Slot.stem).Nodup)
    (serves : world.Serves schema) (width : value.slots.length = schema.slots.length) :
    schema.constructorFunction.Does owner schema.constructorProgram world
      (List.map .ofOption value.slots) (pure (some (.owner ⟨value.slots, world.initial⟩))) where
  body := by
    simp [constructorProgram, constructorFunction, Body.trees, Tree.seq, Function.comp_def]
  run := by
    have names : schema.constructorFunction.inputNames = world.fields :=
      List.map_map.trans serves.fields.symm
    have distinct : world.fields.Nodup := serves.fields ▸ fieldNames_nodup stems
    have count : world.fields.length = value.slots.length := by simp [serves.fields, width]
    let env : Env m α β γ := world.fields.zip (List.map .ofOption value.slots)
    have read : (world.fields.mapM fun name => (env.lookup name).bind Meaning.optional?) =
        some value.slots := by
      refine mapM_lookup count fun index name found => ?_
      have inside := (List.getElem?_eq_some_iff.mp found).1
      have held := List.getElem?_eq_getElem (count ▸ inside)
      rw [held]
      exact lookup_of_nodup distinct found (by simp [held])
    rw [names]
    change schema.constructorProgram.run world env = pure (some _)
    simp [constructorProgram, Body.run, ← serves.fields, read]

def factoryProgram (schema : Schema) (index : Nat) : Body where
  block := .done
  result := some (.new .self ((List.range schema.slots.length).map fun other =>
    if other = index then .present (.variable "payload") else .absent))

theorem factory_does (serves : world.Serves schema) (payload : α) :
    (schema.factory slot index).Does owner (schema.factoryProgram index) world [.payload payload]
      (pure (some (.owner ⟨Slots.only schema.slots.length index payload, world.initial⟩))) where
  body := by
    have each (other : Nat) :
        (if other = index then Expr.present (.variable "payload") else .absent).trees owner =
          if other = index then presentOf "payload" else absent := by
      split <;> rfl
    simp only [factory, factoryProgram, Body.trees, Option.map_some, Option.getD_some, Expr.trees,
      treesEach_eq_map, List.map_map, Function.comp_def, each]
    rfl
  run := by
    have count : world.fields.length = schema.slots.length := by simp [serves.fields]
    let env : Env m α β γ := [("payload", .payload payload)]
    let argument (other : Nat) : Option α := if other = index then some payload else none
    have each (other : Nat) (next : Next m α β γ) :
        (if other = index then Expr.present (.variable "payload") else .absent).run world env next =
          next (.ofOption (argument other)) env := by
      by_cases same : other = index <;> simp [env, argument, same]
    change Body.run world (schema.factoryProgram index) env = _
    rw [factoryProgram, Body.run, Block.run]
    exact run_new _ (by simp [count]) env _ argument each .self _

/-! ### Accessors -/

def occupancyProgram (slot : Slot) : Body where
  block := .done
  result := some (.isSome (.slot "self" slot.name.text))

theorem occupancyAccessor_does (stems : (schema.slots.map Slot.stem).Nodup)
    (here : schema.slots[index]? = some slot) (serves : world.Serves schema) :
    (schema.occupancyAccessor slot).Does owner (occupancyProgram slot) world [.owner value]
      (pure (some (.flag (value.slots.payloadAt index).isSome))) where
  body := by simp [occupancyAccessor, occupancyProgram, Body.trees, Slot.of, Tree.seq]
  run := by
    have place := place_field stems here serves
    cases held : value.slots.payloadAt index with
    | some payload => simp [occupancyAccessor, occupancyProgram, Body.run, place, held]
    | none => simp [occupancyAccessor, occupancyProgram, Body.run, place, held]

def payloadProgram (slot : Slot) : Body where
  block := .done
  result := some (.asRef (.slot "self" slot.name.text))

theorem payloadAccessor_does (stems : (schema.slots.map Slot.stem).Nodup)
    (here : schema.slots[index]? = some slot) (serves : world.Serves schema) :
    (schema.payloadAccessor slot).Does owner (payloadProgram slot) world [.owner value]
      (pure (some (.ofOption (value.slots.payloadAt index)))) where
  body := by simp [payloadAccessor, payloadProgram, Body.trees, Slot.of, Tree.seq]
  run := by
    have place := place_field stems here serves
    cases held : value.slots.payloadAt index with
    | some payload => simp [payloadAccessor, payloadProgram, Body.run, place, held]
    | none => simp [payloadAccessor, payloadProgram, Body.run, place, held]

/-! ### Introspection -/

def occupiedIndexProgram (schema : Schema) : Body where
  block := scan schema.slots fun slot index =>
    .ifThen (.isSome (.slot "self" slot.name.text)) (.returning (.present (.index index)))
  result := some .absent

theorem occupiedIndexFunction_does (stems : (schema.slots.map Slot.stem).Nodup)
    (serves : world.Serves schema) (width : value.slots.length = schema.slots.length) :
    schema.occupiedIndexFunction.Does owner schema.occupiedIndexProgram world [.owner value]
      (pure (some (.ofIndex value.slots.occupiedIndex))) where
  body := by
    simp only [occupiedIndexProgram, Body.trees]
    rw [trees_scan fun slot index => ifThen (callOf (Tree.seq [slot.of "self", ".", "is_some"]) [])
      (returning (presentOf (indexLiteral index)))]
    · rfl
    · intro slot index rest
      simp [Tree.seq, Slot.of]
  run := by
    simp only [occupiedIndexProgram, Body.run]
    rw [run_scan (fun index => (value.slots.payloadAt index).map fun _ => index)
      fun index => pure (some (.present (.index index)))]
    · rw [← width, ← Slots.occupiedIndex_eq_findSome?]
      cases value.slots.occupiedIndex <;> rfl
    · intro slot index rest next here
      have place := place_field stems here serves
      cases held : value.slots.payloadAt index with
      | some payload => simp [occupiedIndexFunction, place, held]
      | none => simp [occupiedIndexFunction, place, held]

/-! ### Dispatch -/

section

variable {name : String} {doc : List String} {binders : List Binder} {arrow success : List Tree}

omit [Monad m]

theorem inputNames_totalDispatch {found : Slot → List Tree} :
    (schema.totalDispatch name doc binders arrow success found).inputNames =
      "self" :: schema.slots.map fun slot => slot.method "on" :=
  congrArg ("self" :: ·) List.map_map

theorem inputNames_partialDispatch {found : List Tree} :
    (schema.partialDispatch name doc binders arrow found).inputNames =
      "self" :: "default" :: schema.slots.map fun slot => slot.method "on" :=
  congrArg ("self" :: "default" :: ·) List.map_map

end

/-- Looks for the first occupied slot and goes on with its payload. -/
def occupiedScan (schema : Schema) (found : Slot → Block) : Block :=
  scan schema.slots fun slot _ =>
    .ifLet (.present (.name "payload")) (.borrowed (.slot "self" slot.name.text)) (found slot)

omit [Monad m] in
theorem trees_occupiedScan {found : Slot → Block} (text : Slot → List Tree)
    (each : ∀ slot, (found slot).trees owner = text slot) :
    (schema.occupiedScan found).trees owner =
      schema.slots.flatMap fun slot =>
        ifLet (presentOf "payload") (slot.borrowed "self") (text slot) := by
  let check (slot : Slot) : List Tree :=
    ifLet (presentOf "payload") (slot.borrowed "self") (text slot)
  rw [occupiedScan, trees_scan fun slot _ => check slot]
  · exact flatMap_zipIdx schema.slots check
  · intro slot index rest
    simp [check, each, Slot.borrowed, Slot.of, Tree.seq]

/-- What is done with the first payload may depend on its slot. -/
theorem run_occupiedScan (stems : (schema.slots.map Slot.stem).Nodup)
    (serves : world.Serves schema) (width : value.slots.length = schema.slots.length)
    (holds : env.lookup "self" = some (.owner value)) {found : Slot → Block}
    (handlers : List (α → δ)) (lengths : handlers.length = schema.slots.length)
    (answer : δ → m (Outcome m α β γ))
    (each : ∀ (index : Nat) (slot : Slot) (handler : α → δ) (payload : α)
      (next : Env m α β γ → m (Outcome m α β γ)), schema.slots[index]? = some slot →
      handlers[index]? = some handler →
      (found slot).run world (("payload", .payload payload) :: env) next = answer (handler payload))
    (next : Env m α β γ → m (Outcome m α β γ)) :
    (schema.occupiedScan found).run world env next =
      ((value.slots.map handlers).map answer).getD (next env) := by
  rw [occupiedScan, run_scan (fun index => (value.slots.payloadAt index).bind fun payload =>
    (handlers[index]?).map fun handler => handler payload) answer]
  · rw [← width, ← Slots.map_eq_findSome? value.slots (lengths.trans width.symm)]
  · intro slot index rest next here
    have place := place_field stems here serves
    obtain ⟨handler, handled⟩ : ∃ handler, handlers[index]? = some handler :=
      ⟨_, List.getElem?_eq_getElem (lengths ▸ (List.getElem?_eq_some_iff.mp here).1)⟩
    cases held : value.slots.payloadAt index with
    | some payload =>
        simp [holds, place, held, handled, each index slot handler payload _ here handled]
    | none => simp [holds, place, held]

/-- A dispatch with a handler for each slot: what is done with a payload depends on what the handler
of its slot does. -/
theorem run_totalDispatch (stems : (schema.slots.map Slot.stem).Nodup)
    (serves : world.Serves schema) (width : value.slots.length = schema.slots.length)
    {handlers : List (α → m γ)} (lengths : handlers.length = schema.slots.length)
    {found : Slot → Block} (answer : m γ → m (Outcome m α β γ))
    (each : ∀ (slot : Slot) (env : Env m α β γ) (handler : α → m γ) (payload : α)
      (next : Env m α β γ → m (Outcome m α β γ)),
      env.lookup (slot.method "on") = some (.handler handler) →
      env.lookup "payload" = some (.payload payload) →
      (found slot).run world env next = answer (handler payload)) :
    Body.run world ⟨schema.occupiedScan found, some (.failure false .vacancy)⟩
        (("self", .owner value) ::
          (schema.slots.map fun slot => slot.method "on").zip (handlers.map .handler)) =
      ((value.slots.map handlers).map answer).getD (pure (some (.failure .vacancy))) := by
  rw [Body.run, run_occupiedScan stems serves width rfl handlers lengths answer]
  · simp
  · intro index slot handler payload next here handled
    exact each slot _ handler payload next
      (lookup_handler stems here (by simp [handled]) [("payload", _), ("self", _)] (by simp)) rfl

def mapProgram (schema : Schema) : Body where
  block := schema.occupiedScan fun slot =>
    .returning (.success (.call (slot.method "on") [.variable "payload"]))
  result := some (.failure false .vacancy)

theorem mapFunction_does (stems : (schema.slots.map Slot.stem).Nodup)
    (serves : world.Serves schema) (width : value.slots.length = schema.slots.length)
    {handlers : List (α → m γ)} (lengths : handlers.length = schema.slots.length) :
    schema.mapFunction.Does owner schema.mapProgram world
      (.owner value :: handlers.map .handler)
      (((value.slots.map handlers).map fun action => do
        let output ← action
        return some (.success (world.returned output))).getD
          (pure (some (.failure .vacancy)))) where
  body := by
    simp only [mapProgram, Body.trees]
    rw [trees_occupiedScan fun slot =>
      returning (successOf (callOf (slot.method "on") ["payload"]))]
    · rfl
    · exact fun slot => rfl
  run := by
    rw [mapFunction, inputNames_totalDispatch]
    refine run_totalDispatch stems serves width lengths _ ?_
    intro slot env handler payload next handled held
    simp [handled, held]

def visitProgram (schema : Schema) : Body where
  block := schema.occupiedScan fun slot =>
    .step (.call (slot.method "on") [.variable "payload"]) (.returning (.success .unit))
  result := some (.failure false .vacancy)

theorem visitFunction_does [LawfulMonad m] {world : World m α β Unit}
    (stems : (schema.slots.map Slot.stem).Nodup) (serves : world.Serves schema)
    (width : value.slots.length = schema.slots.length) {handlers : List (α → m Unit)}
    (lengths : handlers.length = schema.slots.length) :
    schema.visitFunction.Does owner schema.visitProgram world
      (.owner value :: handlers.map .handler)
      (do
        let visited ← value.slots.visit handlers
        return some (if visited then .success .unit else .failure .vacancy)) where
  body := by
    simp only [visitProgram, Body.trees]
    rw [trees_occupiedScan fun slot => Tree.seq
      [callOf (slot.method "on") ["payload"], ";", returning (successOf [Tree.parens []])]]
    · rfl
    · intro slot
      simp [Tree.seq]
  run := by
    rw [visitFunction, inputNames_totalDispatch, Slots.visit_eq_map]
    refine (run_totalDispatch stems serves width lengths
      (fun action => action >>= fun _ => pure (some (.success .unit))) ?_).trans ?_
    · intro slot env handler payload next handled held
      simp [handled, held]
    · cases value.slots.map handlers <;> simp

/-- Looks for the first slot that is occupied and has a handler, and goes on with both. -/
def handledScan (schema : Schema) (found : Block) : Block :=
  scan schema.slots fun slot _ =>
    .ifLet (.pair (.present (.name "payload")) (.present (.name "handler")))
      (.pair (.borrowed (.slot "self" slot.name.text)) (.variable (slot.method "on"))) found

omit [Monad m] in
theorem trees_handledScan (found : Block) :
    (schema.handledScan found).trees owner =
      schema.slots.flatMap fun slot =>
        ifLet (pairOf (presentOf "payload") (presentOf "handler"))
          (pairOf (slot.borrowed "self") (slot.method "on")) (found.trees owner) := by
  let check (slot : Slot) : List Tree :=
    ifLet (pairOf (presentOf "payload") (presentOf "handler"))
      (pairOf (slot.borrowed "self") (slot.method "on")) (found.trees owner)
  rw [handledScan, trees_scan fun slot _ => check slot]
  · exact flatMap_zipIdx schema.slots check
  · intro slot index rest
    simp [check, Slot.borrowed, Slot.of, Tree.seq]

/-- A dispatch with handlers for some slots: what is done with a payload depends on what its handler
does, and in the same way on what the default does. -/
theorem run_partialDispatch (stems : (schema.slots.map Slot.stem).Nodup)
    (serves : world.Serves schema) (width : value.slots.length = schema.slots.length)
    {handlers : List (Option (α → m γ))} (lengths : handlers.length = schema.slots.length)
    (default : m γ) {found : Block} (answer : m γ → m (Outcome m α β γ))
    (each : ∀ (env : Env m α β γ) (handler : α → m γ) (payload : α)
      (next : Env m α β γ → m (Outcome m α β γ)),
      env.lookup "handler" = some (.handler handler) →
      env.lookup "payload" = some (.payload payload) →
      found.run world env next = answer (handler payload))
    (otherwise : answer default =
      default >>= fun output => pure (some (world.returned output))) :
    Body.run world ⟨schema.handledScan found, some (.call "default" [])⟩
        (("self", .owner value) :: ("default", .default default) ::
          (schema.slots.map fun slot => slot.method "on").zip (handlers.map .ofHandler)) =
      answer (value.slots.mapOrElse (fun _ => default) handlers) := by
  rw [Body.run, handledScan,
    Slots.mapOrElse_eq_findSome? _ _ (lengths.trans width.symm), width,
    run_scan (fun index => (value.slots.payloadAt index).bind fun payload =>
      (handlers[index]?.join).map fun handler => handler payload) answer]
  · cases (List.range schema.slots.length).findSome? _ with
    | some action => rfl
    | none => exact otherwise.symm
  · intro slot index rest next here
    have place := place_field stems here serves
    obtain ⟨handler?, handled⟩ : ∃ handler?, handlers[index]? = some handler? :=
      ⟨_, List.getElem?_eq_getElem (lengths ▸ (List.getElem?_eq_some_iff.mp here).1)⟩
    let others : Env m α β γ := [("self", .owner value), ("default", .default default)]
    let env : Env m α β γ :=
      others ++ (schema.slots.map fun slot => slot.method "on").zip (handlers.map .ofHandler)
    have named : env.lookup (slot.method "on") = some (.ofHandler handler?) :=
      lookup_handler stems here (by simp [handled]) others (by simp [others])
    change Block.run world _ env next = Option.getD _ (Block.run world rest env next)
    have holds : env.lookup "self" = some (.owner value) := rfl
    cases held : value.slots.payloadAt index with
    | none => simp [holds, place, held, named]
    | some payload =>
        cases handler? with
        | none => simp [holds, place, held, named, handled]
        | some handler =>
            have serving := each (("payload", .payload payload) :: ("handler", .handler handler) ::
              env) handler payload (fun after => rest.run world (after.outside env) next) rfl rfl
            simpa [holds, place, held, named, handled] using serving

def mapOrElseProgram (schema : Schema) : Body where
  block := schema.handledScan (.returning (.call "handler" [.variable "payload"]))
  result := some (.call "default" [])

theorem mapOrElseFunction_does (stems : (schema.slots.map Slot.stem).Nodup)
    (serves : world.Serves schema) (width : value.slots.length = schema.slots.length)
    {handlers : List (Option (α → m γ))} (lengths : handlers.length = schema.slots.length)
    (default : m γ) :
    schema.mapOrElseFunction.Does owner schema.mapOrElseProgram world
      (.owner value :: .default default :: handlers.map .ofHandler)
      (do
        let output ← value.slots.mapOrElse (fun _ => default) handlers
        return some (world.returned output)) where
  body := by
    simp only [mapOrElseProgram, Body.trees]
    rw [trees_handledScan]
    rfl
  run := by
    rw [mapOrElseFunction, inputNames_partialDispatch]
    refine run_partialDispatch stems serves width lengths default
      (fun action => action >>= fun output => pure (some (world.returned output))) ?_ rfl
    intro env handler payload next handled held
    simp [handled, held]

def visitOrElseProgram (schema : Schema) : Body where
  block := schema.handledScan (.step (.call "handler" [.variable "payload"]) .leave)
  result := some (.call "default" [])

theorem visitOrElseFunction_does {world : World m α β Unit}
    (stems : (schema.slots.map Slot.stem).Nodup) (serves : world.Serves schema)
    (unit : world.returned = fun _ => .unit) (width : value.slots.length = schema.slots.length)
    {handlers : List (Option (α → m Unit))} (lengths : handlers.length = schema.slots.length)
    (default : m Unit) :
    schema.visitOrElseFunction.Does owner schema.visitOrElseProgram world
      (.owner value :: .default default :: handlers.map .ofHandler)
      (do
        value.slots.visitOrElse default handlers
        return some .unit) where
  body := by
    simp only [visitOrElseProgram, Body.trees]
    rw [trees_handledScan]
    rfl
  run := by
    rw [visitOrElseFunction, inputNames_partialDispatch, Slots.visitOrElse_eq_mapOrElse]
    refine run_partialDispatch stems serves width lengths default
      (fun action => action >>= fun _ => pure (some .unit)) ?_ (by rw [unit])
    intro env handler payload next handled held
    simp [handled, held]

/-! ### Conversions -/

omit [Monad m] in
/-- What is converted into is the type that payloads are compared with. -/
theorem target_fromPayload (schema : Schema) (slot : Slot) :
    (schema.fromPayload slot).target = schema.ownerType.trees :=
  (trees_ownerType schema).symm

def fromProgram (slot : Slot) : Body where
  block := .done
  result := some (.factory .self (slot.method "from") (.variable "payload"))

theorem fromPayload_does (stems : (schema.slots.map Slot.stem).Nodup)
    (here : schema.slots[index]? = some slot) (serves : world.Serves schema) (payload : α) :
    ∃ function, (schema.fromPayload slot).functions = [function] ∧
      function.Does owner (fromProgram slot) world [.payload payload]
        (pure (some (.owner ⟨Slots.only schema.slots.length index payload, world.initial⟩))) := by
  have place := place_factory stems here serves
  have count : world.fields.length = schema.slots.length := by simp [serves.fields]
  refine ⟨_, rfl, ?_, ?_⟩
  · simp [fromProgram, Body.trees, Tree.seq]
  · simp [fromProgram, Body.run, place, count]

def tryFromProgram (slot : Slot) (index : Nat) : Body where
  block := .ifThen
    (.equal (.occupiedIndex (.borrowed (.variable "value"))) (.present (.index index)))
    (.ifLet (.present (.name "payload")) (.taken "value" slot.name.text)
      (.returning (.success (.variable "payload"))) .done) .done
  result := some (.failure false (.variable "value"))

theorem tryFromOwner_does (stems : (schema.slots.map Slot.stem).Nodup)
    (here : schema.slots[index]? = some slot) (serves : world.Serves schema) :
    ∃ function, (schema.tryFromOwner slot index).functions = [function] ∧
      function.Does owner (tryFromProgram slot index) world [.owner value]
        (pure (some (match value.take index with
          | .ok payload => .success (.payload payload)
          | .error value => .failure (.owner value)))) := by
  refine ⟨_, rfl, ?_, ?_⟩
  · have borrowed : Tree.words "& value" = [.leaf "&" false, .leaf "value" false] := rfl
    simp [tryFromProgram, Body.trees, Tree.seq, Slot.of, borrowed]
  · have place := place_field stems here serves
    rw [Value.take]
    cases found : value.slots.occupiedIndex with
    | none => simp [tryFromProgram, Body.run, found, Meaning.ofIndex]
    | some first =>
        by_cases same : first = index
        · subst same
          obtain ⟨payload, isFirst⟩ := Slots.occupiedIndex_eq_some_iff.mp found
          have held : value.slots.payloadAt first = some payload := by
            simp [Slots.payloadAt, (Slots.isFirst_iff.mp isFirst).1]
          simp [tryFromProgram, Body.run, found, Meaning.ofIndex, place, held]
        · simp [tryFromProgram, Body.run, found, Meaning.ofIndex, same, beq_false_of_ne same]

end Schema

end SlotSum
