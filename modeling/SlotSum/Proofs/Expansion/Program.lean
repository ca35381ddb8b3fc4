import SlotSum.Expansion.Wire
import SlotSum.Wire.Read

/-!
The programs that generated functions consist of. A program prints as the body of a function, and it
runs on the values of the function's inputs, so what a generated function does can be said of its
text. Running takes what follows as a continuation, because a body may be left in the middle: by a
return, or by a question mark behind what failed.
-/

namespace SlotSum.Program

/-! ### Syntax -/

inductive Pattern where
  | name (text : String)
  | present (inner : Pattern)
  | pair (first second : Pattern)

/-- How generated code refers to the owner: by `Self`, or by its type where `Self` is another. -/
inductive Owner where
  | self
  | byType
  deriving DecidableEq

inductive Expr where
  | variable (name : String)
  | slot (holder field : String)
  | borrowed (inner : Expr)
  | unit
  | flag (value : Bool)
  | index (value : Nat)
  | byte (value : UInt8)
  | absent
  | present (inner : Expr)
  | success (inner : Expr)
  | failure (trailing : Bool) (inner : Expr)
  | pair (first second : Expr)
  | isSome (inner : Expr)
  | isNone (inner : Expr)
  | asRef (inner : Expr)
  | taken (holder field : String)
  | equal (first second : Expr)
  | all (conditions : List Expr)
  /-- A call of an input. -/
  | call (function : String) (arguments : List Expr)
  /-- The owner by its fields: each slot is an input of its name, and other fields are defaults. -/
  | fields (slots others : List String)
  | new (owner : Owner) (arguments : List Expr)
  | factory (owner : Owner) (name : String) (argument : Expr)
  | occupiedIndex (inner : Expr)
  | vacancy
  | identical (first second : Expr)
  | hashed (value state : Expr)
  | writtenSlot (serializer : Expr) (key : String) (value : Expr)
  | writtenVacant (serializer : Expr)
  | nextKey (map : String)
  /-- A factory of the next value; a value that does not fit is what the function returns. -/
  | read (owner : Owner) (name map : String)
  | entryEnd (map : String)
  | unknownKey (key keys : String)
  | asText (name : String)
  | tried (inner : Expr)

inductive Block where
  | done
  | leave
  | returning (value : Expr)
  | step (value : Expr) (rest : Block)
  | ifLet (pattern : Pattern) (value : Expr) (inner rest : Block)
  | ifThen (condition : Expr) (inner rest : Block)
  | cases (value : Expr) (name : String) (full empty : Expr) (rest : Block)
  | texts (name : String) (values : List String) (rest : Block)
  | letElse (pattern : Pattern) (value : Expr) (otherwise rest : Block)
  | choose (name : String) (value : Expr) (arms : List (String × Expr)) (otherwise rest : Block)

/-- The body of a function: its statements, and the expression at its end if there is one. -/
structure Body where
  block : Block
  result : Option Expr

/-! ### Text -/

@[simp] def Pattern.trees : Pattern → List Tree
  | .name text => text
  | .present inner => presentOf inner.trees
  | .pair first second => pairOf first.trees second.trees

section

variable (owner : Ty)

/-- The path of a function of the owner. -/
@[simp] def Owner.path (name : String) : Owner → List Tree
  | .self => Tree.seq ["Self", "::", name]
  | .byType => Tree.seq ["<", owner.trees, ">", "::", name]

mutual

@[simp] def Expr.trees : Expr → List Tree
  | .variable name => name
  | .slot holder field => Tree.seq [holder, ".", field]
  | .borrowed inner => Tree.seq ["&", inner.trees]
  | .unit => Tree.parens []
  | .flag value => if value then "true" else "false"
  | .index value => indexLiteral value
  | .byte value => [.leaf (toString value.toNat ++ "u8") false]
  | .absent => SlotSum.absent
  | .present inner => presentOf inner.trees
  | .success inner => successOf inner.trees
  | .failure false inner => failureOf inner.trees
  | .failure true inner =>
    Tree.seq [hiddenPath "Result :: Err", Tree.parens (Tree.commaTerminated [inner.trees])]
  | .pair first second => pairOf first.trees second.trees
  | .isSome inner => callOf (Tree.seq [inner.trees, ".", "is_some"]) []
  | .isNone inner => callOf (Tree.seq [inner.trees, ".", "is_none"]) []
  | .asRef inner => callOf (Tree.seq [inner.trees, ".", "as_ref"]) []
  | .taken holder field => callOf (Tree.seq [Tree.seq [holder, ".", field], ".", "take"]) []
  | .equal first second => Tree.seq [first.trees, "==", second.trees]
  | .all [] => "true"
  | .all conditions => Tree.seq ((Expr.treesEach conditions).intersperse ["&&"])
  | .call function arguments => callOf function (Expr.treesEach arguments)
  | .fields slots others =>
    let named : List (List Tree) := slots.map fun name => [.leaf name false]
    let defaults := others.map fun name : String =>
      Tree.seq [name, ":", callOf (hiddenPath "Default :: default") []]
    Tree.seq ["Self", Tree.braces (Tree.commaTerminated (named ++ defaults))]
  | .new own arguments => callOf (own.path owner "new") (Expr.treesEach arguments)
  | .factory own name argument => callOf (own.path owner name) [argument.trees]
  | .occupiedIndex inner => callOf (libraryPath "OneOf :: occupied_index") [inner.trees]
  | .vacancy =>
    callOf (Tree.seq [libraryPath "NoVariantOccupied", Tree.words ":: of :: < Self >"]) []
  | .identical first second => callOf (hiddenPath "ptr_eq") [first.trees, second.trees]
  | .hashed value state => callOf (hiddenPath "Hash :: hash") [value.trees, state.trees]
  | .writtenSlot serializer key value =>
    callOf (wireHelper "serialize_slot") [serializer.trees, Quoted.literal key, value.trees]
  | .writtenVacant serializer => callOf (wireHelper "serialize_vacant") [serializer.trees]
  | .nextKey map =>
    callOf (Tree.seq [map, Tree.words ". next_key :: <", hiddenPath "String", ">"]) []
  | .read own name map =>
    let value := Tree.seq [callOf (Tree.seq [map, Tree.words ". next_value"]) [], "?"]
    callOf (own.path owner name) [value]
  | .entryEnd map =>
    callOf (wireHelper "end_single_entry") [Tree.seq [Tree.words "& mut", map], Tree.words "& self"]
  | .unknownKey key keys =>
    Tree.seq
      [ Tree.words "< __A :: Error as", wirePath "de :: Error", Tree.words "> :: unknown_variant",
        Tree.parens (Tree.commaSeparated [Tree.seq ["&", key], keys]) ]
  | .asText name => callOf (Tree.seq [name, ".", "as_str"]) []
  | .tried inner => Tree.seq [inner.trees, "?"]

@[simp] def Expr.treesEach : List Expr → List (List Tree)
  | [] => []
  | first :: rest => first.trees :: Expr.treesEach rest

end

theorem treesEach_eq_map (terms : List Expr) :
    Expr.treesEach owner terms = terms.map (Expr.trees owner) := by
  induction terms with
  | nil => rfl
  | cons first rest ih => rw [Expr.treesEach, ih, List.map_cons]

@[simp] def Block.trees : Block → List Tree
  | .done => []
  | .leave => Tree.seq ["return", ";"]
  | .returning value => SlotSum.returning (value.trees owner)
  | .step value rest => Tree.seq [value.trees owner, ";", rest.trees]
  | .ifLet pattern value inner rest =>
    Tree.seq [SlotSum.ifLet pattern.trees (value.trees owner) inner.trees, rest.trees]
  | .ifThen condition inner rest =>
    Tree.seq [SlotSum.ifThen (condition.trees owner) inner.trees, rest.trees]
  | .cases value name full empty rest =>
    let arms :=
      [ Tree.seq [presentOf name, "=>", full.trees owner],
        Tree.seq [SlotSum.absent, "=>", empty.trees owner] ]
    Tree.seq
      ["match", value.trees owner, Tree.braces (Tree.commaTerminated arms), rest.trees]
  | .texts name values rest =>
    Tree.seq
      [ "const", name, ":", "&", Tree.brackets (Tree.words "& str"), "=", literalList values, ";",
        rest.trees ]
  | .letElse pattern value otherwise rest =>
    Tree.seq
      [ "let", pattern.trees, "=", value.trees owner, "else", Tree.braces otherwise.trees, ";",
        rest.trees ]
  | .choose name value arms otherwise rest =>
    let each := arms.map fun (key, chosen) =>
      Tree.seq [Quoted.literal key, "=>", chosen.trees owner]
    let all := Tree.seq [Tree.commaTerminated each, "_", "=>", Tree.braces otherwise.trees]
    Tree.seq ["let", name, "=", "match", value.trees owner, Tree.braces all, ";", rest.trees]

def Body.trees (body : Body) : List Tree :=
  Tree.seq [body.block.trees owner, (body.result.map (Expr.trees owner)).getD []]

end

/-! ### Values -/

variable (m : Type → Type) (α β γ : Type)

/-- What names and expressions stand for. Payloads are of type `α`, the fields that are no slots of
type `β`, and what inputs that are functions return is of type `γ`. -/
inductive Meaning where
  | unit
  | flag (value : Bool)
  | index (value : Nat)
  | byte (value : UInt8)
  | text (value : String)
  | texts (values : List String)
  | payload (value : α)
  | owner (value : Value α β)
  | absent
  | present (inner : Meaning)
  | success (inner : Meaning)
  | failure (inner : Meaning)
  | pair (first second : Meaning)
  | handler (run : α → m γ)
  | default (run : m γ)
  | output (value : γ)
  | vacancy
  | rejection (reason : Rejection)
  /-- A hasher, a serializer or a map: what it does is done in `m`. -/
  | device

abbrev Env := List (String × Meaning m α β γ)

/-- What comes of running a body; nothing comes of one that is stuck. -/
abbrev Outcome := Option (Meaning m α β γ)

/-- What generated code finds where it runs. -/
structure World where
  /-- The fields of the owner that are slots, in order. -/
  fields : List String
  /-- The factories of the owner, in the order of its slots. -/
  factories : List String
  /-- The defaults of all other fields. -/
  initial : β
  same : α → α → Bool
  /-- Two owners that are compared are one instance. -/
  identical : Bool
  hash : α → m Unit
  hashByte : UInt8 → m Unit
  /-- Writes a map of one entry, or of none. -/
  write : Option (String × α) → m γ
  /-- What a function that is an input returns, as a value of the program. -/
  returned : γ → Meaning m α β γ
  nextKey : m (Reading (Option String))
  /-- Reads a value as the payload of a slot. -/
  nextValue : Nat → m (Reading α)
  entryEnd : m (Reading Unit)

variable {m α β γ}

namespace Meaning

@[simp] def ofOption : Option α → Meaning m α β γ
  | some value => .present (.payload value)
  | none => .absent

/-- What stands for a handler that there may be. -/
@[simp] def ofHandler : Option (α → m γ) → Meaning m α β γ
  | some run => .present (.handler run)
  | none => .absent

def ofIndex : Option Nat → Meaning m α β γ
  | some value => .present (.index value)
  | none => .absent

@[simp] def ofReading {δ : Type} (make : δ → Meaning m α β γ) : Reading δ → Meaning m α β γ
  | .ok value => .success (make value)
  | .error reason => .failure (.rejection reason)

@[simp] def isPresent? : Meaning m α β γ → Option Bool
  | .present _ => some true
  | .absent => some false
  | _ => none

/-- What a slot takes. -/
@[simp] def optional? : Meaning m α β γ → Option (Option α)
  | .present (.payload value) => some (some value)
  | .absent => some none
  | _ => none

/-- Equality of what can be compared. -/
@[simp] def equal? (same : α → α → Bool) : Meaning m α β γ → Meaning m α β γ → Option Bool
  | .payload left, .payload right => some (same left right)
  | .index left, .index right => some (left == right)
  | .absent, .absent => some true
  | .absent, .present _ => some false
  | .present _, .absent => some false
  | .present left, .present right => equal? same left right
  | _, _ => none

end Meaning

/-! ### Running -/

namespace Env

/-- Gives a name another value. -/
@[simp] def set (name : String) (got : Meaning m α β γ) : Env m α β γ → Env m α β γ
  | [] => []
  | (other, old) :: rest =>
    if other = name then (name, got) :: rest else (other, old) :: set name got rest

@[simp] def owner? (env : Env m α β γ) (name : String) : Option (Value α β) :=
  match env.lookup name with
  | some (.owner value) => some value
  | _ => none

/-- What is left of names behind a block: those that there were before it. -/
@[simp] def outside (env before : Env m α β γ) : Env m α β γ :=
  env.drop (env.length - before.length)

end Env

/-- Binds the names of a pattern, if it fits. -/
@[simp] def Pattern.fit : Pattern → Meaning m α β γ → Option (Env m α β γ)
  | .name text, got => some [(text, got)]
  | .present inner, .present got => inner.fit got
  | .pair first second, .pair left right =>
    (first.fit left).bind fun bound => (second.fit right).map fun more => bound ++ more
  | _, _ => none

section

variable [Monad m]

@[simp] def orStuck {δ : Type} (found : Option δ) (next : δ → m (Outcome m α β γ)) :
    m (Outcome m α β γ) :=
  match found with
  | some value => next value
  | none => pure none

abbrev Next (m : Type → Type) (α β γ : Type) := Meaning m α β γ → Env m α β γ → m (Outcome m α β γ)

variable (world : World m α β γ)

mutual

@[simp] def Expr.run : Expr → Env m α β γ → Next m α β γ → m (Outcome m α β γ)
  | .variable name, env, next => orStuck (env.lookup name) fun got => next got env
  | .slot holder field, env, next =>
    orStuck (env.owner? holder) fun value =>
      orStuck (world.fields.idxOf? field) fun place =>
        next (.ofOption (value.slots.payloadAt place)) env
  | .borrowed inner, env, next => inner.run env next
  | .unit, env, next => next .unit env
  | .flag value, env, next => next (.flag value) env
  | .index value, env, next => next (.index value) env
  | .byte value, env, next => next (.byte value) env
  | .absent, env, next => next .absent env
  | .present inner, env, next => inner.run env fun got env => next (.present got) env
  | .success inner, env, next => inner.run env fun got env => next (.success got) env
  | .failure _ inner, env, next => inner.run env fun got env => next (.failure got) env
  | .pair first second, env, next =>
    first.run env fun left env => second.run env fun right env => next (.pair left right) env
  | .isSome inner, env, next =>
    inner.run env fun got env => orStuck got.isPresent? fun value => next (.flag value) env
  | .isNone inner, env, next =>
    inner.run env fun got env => orStuck got.isPresent? fun value => next (.flag !value) env
  | .asRef inner, env, next =>
    inner.run env fun got env => orStuck got.isPresent? fun _ => next got env
  | .taken holder field, env, next =>
    orStuck (env.owner? holder) fun value =>
      orStuck (world.fields.idxOf? field) fun place =>
        let rest := { value with slots := value.slots.set place none }
        next (.ofOption (value.slots.payloadAt place)) (env.set holder (.owner rest))
  | .equal first second, env, next =>
    first.run env fun left env => second.run env fun right env =>
      orStuck (left.equal? world.same right) fun value => next (.flag value) env
  | .all conditions, env, next => Expr.runAll conditions env next
  | .call function arguments, env, next =>
    Expr.runEach arguments env fun values env =>
      match env.lookup function, values with
      | some (.handler run), [.payload value] =>
        run value >>= fun output => next (world.returned output) env
      | some (.default run), [] => run >>= fun output => next (world.returned output) env
      | _, _ => pure none
  | .fields slots _, env, next =>
    orStuck (slots.mapM fun name => (env.lookup name).bind Meaning.optional?) fun values =>
      if slots = world.fields then next (.owner ⟨values, world.initial⟩) env else pure none
  | .new _ arguments, env, next =>
    Expr.runEach arguments env fun values env =>
      orStuck (values.mapM Meaning.optional?) fun slots =>
        if slots.length = world.fields.length then next (.owner ⟨slots, world.initial⟩) env
        else pure none
  | .factory _ name argument, env, next =>
    argument.run env fun got env =>
      match world.factories.idxOf? name, got with
      | some place, .payload value =>
        next (.owner ⟨Slots.only world.fields.length place value, world.initial⟩) env
      | _, _ => pure none
  | .occupiedIndex inner, env, next =>
    inner.run env fun got env =>
      match got with
      | .owner value => next (.ofIndex value.slots.occupiedIndex) env
      | _ => pure none
  | .vacancy, env, next => next .vacancy env
  | .identical first second, env, next =>
    first.run env fun left env => second.run env fun right env =>
      match left, right with
      | .owner _, .owner _ => next (.flag world.identical) env
      | _, _ => pure none
  | .hashed value state, env, next =>
    value.run env fun got env => state.run env fun held env =>
      match got, held with
      | .payload value, .device => world.hash value >>= fun _ => next .unit env
      | .byte value, .device => world.hashByte value >>= fun _ => next .unit env
      | _, _ => pure none
  | .writtenSlot serializer key value, env, next =>
    serializer.run env fun held env => value.run env fun got env =>
      match held, got with
      | .device, .payload value =>
        world.write (some (key, value)) >>= fun output => next (world.returned output) env
      | _, _ => pure none
  | .writtenVacant serializer, env, next =>
    serializer.run env fun held env =>
      match held with
      | .device => world.write none >>= fun output => next (world.returned output) env
      | _ => pure none
  | .nextKey map, env, next =>
    match env.lookup map with
    | some .device =>
      let key : Option String → Meaning m α β γ := fun key =>
        (key.map fun key => Meaning.present (.text key)).getD .absent
      world.nextKey >>= fun read => next (.ofReading key read) env
    | _ => pure none
  | .read _ name map, env, next =>
    match env.lookup map, world.factories.idxOf? name with
    | some .device, some place =>
      world.nextValue place >>= fun read =>
        match read with
        | .ok value =>
          next (.owner ⟨Slots.only world.fields.length place value, world.initial⟩) env
        | .error reason => pure (some (.failure (.rejection reason)))
    | _, _ => pure none
  | .entryEnd map, env, next =>
    match env.lookup map with
    | some .device => world.entryEnd >>= fun read => next (.ofReading (fun _ => .unit) read) env
    | _ => pure none
  | .unknownKey key keys, env, next =>
    match env.lookup key, env.lookup keys with
    | some (.text key), some (.texts keys) => next (.rejection (.unknownVariant key keys)) env
    | _, _ => pure none
  | .asText name, env, next =>
    match env.lookup name with
    | some (.text value) => next (.text value) env
    | _ => pure none
  | .tried inner, env, next =>
    inner.run env fun got env =>
      match got with
      | .success value => next value env
      | .failure reason => pure (some (.failure reason))
      | _ => pure none

@[simp] def Expr.runEach : List Expr → Env m α β γ →
    (List (Meaning m α β γ) → Env m α β γ → m (Outcome m α β γ)) → m (Outcome m α β γ)
  | [], env, next => next [] env
  | first :: rest, env, next =>
    first.run env fun got env => Expr.runEach rest env fun values env => next (got :: values) env

/-- Conditions are looked at up to the first that does not hold. -/
@[simp] def Expr.runAll : List Expr → Env m α β γ → Next m α β γ → m (Outcome m α β γ)
  | [], env, next => next (.flag true) env
  | first :: rest, env, next =>
    first.run env fun got env =>
      match got with
      | .flag true => Expr.runAll rest env next
      | .flag false => next (.flag false) env
      | _ => pure none

end

/-- Where a block goes on, what follows it is run. -/
@[simp] def Block.run :
    Block → Env m α β γ → (Env m α β γ → m (Outcome m α β γ)) → m (Outcome m α β γ)
  | .done, env, next => next env
  | .leave, _, _ => pure (some .unit)
  | .returning value, env, _ => value.run world env fun got _ => pure (some got)
  | .step value rest, env, next => value.run world env fun _ env => rest.run env next
  | .ifLet pattern value inner rest, env, next =>
    value.run world env fun got env =>
      match pattern.fit got with
      | some bound => inner.run (bound ++ env) fun after => rest.run (after.outside env) next
      | none => rest.run env next
  | .ifThen condition inner rest, env, next =>
    condition.run world env fun got env =>
      match got with
      | .flag true => inner.run env fun after => rest.run (after.outside env) next
      | .flag false => rest.run env next
      | _ => pure none
  | .cases value name full empty rest, env, next =>
    value.run world env fun got env =>
      match got with
      | .present inner =>
        full.run world ((name, inner) :: env) fun _ env => rest.run (env.drop 1) next
      | .absent => empty.run world env fun _ env => rest.run env next
      | _ => pure none
  | .texts name values rest, env, next => rest.run ((name, .texts values) :: env) next
  | .letElse pattern value otherwise rest, env, next =>
    value.run world env fun got env =>
      match pattern.fit got with
      | some bound => rest.run (bound ++ env) next
      | none => otherwise.run env fun _ => pure none
  | .choose name value arms otherwise rest, env, next =>
    value.run world env fun got env =>
      match got with
      | .text key =>
        match arms.lookup key with
        | some chosen => chosen.run world env fun got env => rest.run ((name, got) :: env) next
        | none => otherwise.run env fun _ => pure none
      | _ => pure none

def Body.run (body : Body) (env : Env m α β γ) : m (Outcome m α β γ) :=
  body.block.run world env fun env =>
    match body.result with
    | some result => result.run world env fun got _ => pure (some got)
    | none => pure (some .unit)

end

end SlotSum.Program
