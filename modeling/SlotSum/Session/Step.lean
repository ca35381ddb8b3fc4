import SlotSum.Session.Catalog
import SlotSum.Wire.Read

/-!
Sessions: registers hold values of one type, and each step fills or looks at a register. A step
that is refused leaves the registers as they were.
-/

namespace SlotSum

inductive Step where
  | construct (target : String) (slots : Datum)
  | factory (target : String) (slot : Nat) (payload : Datum)
  | convert (target : String) (slot : Nat) (payload : Datum)
  | deserialize (target text : String)
  | clone (source target : String)
  | constants
  | state (source : String)
  | occupied (source : String)
  | accessors (source : String)
  | tryInto (source : String) (slot : Nat)
  | map (source : String)
  | visit (source : String)
  | mapOrElse (source : String) (handlers : List Bool)
  | visitOrElse (source : String) (handlers : List Bool)
  | compare (source other : String)
  | hash (source : String)
  | serialize (source : String)
  | setExtra (source : String) (payload : Datum)
  | unknown
  deriving Repr, Inhabited

/-- Why a step is not carried out. -/
inductive Refusal where
  | noRegister
  | noConversion
  | noClone
  | noHash
  | noSerde
  | badPayload
  | badRequest
  | unread (rejection : Rejection)
  deriving DecidableEq, Repr, Inhabited

structure State where
  slots : Datum
  extra : Option Datum
  deriving Repr, Inhabited

/-- A payload with the number of the slot whose handler got it. -/
abbrev Call := Nat × Datum

inductive Reply where
  | refused (refusal : Refusal)
  | state (state : State)
  | constants (layout : Layout)
  | occupied (index : Option Nat) (variant : Option String) (vacant : Bool)
  | accessors (slots : List (Bool × Option Datum))
  | taken (payload : Datum)
  | rejected (state : State)
  | called (result : Except NoVariantOccupied Call)
  | visited (calls : List Call) (result : Except NoVariantOccupied Unit)
  /-- The handler that was chosen, or the default. -/
  | chosen (call : Option Call)
  | ran (calls : List (Option Call))
  | compared (equal : Bool)
  | bytes (bytes : List UInt8)
  | text (text : String)
  deriving Inhabited

namespace Session

abbrev Held := Value Payload (Option Payload)

abbrev Registers := List (String × Held)

def stateOf (value : Held) : State :=
  ⟨.list (Datum.ofSlots value.slots), value.extra.map .ofPayload⟩

/-- Registers with one of them filled. -/
def store (registers : Registers) (name : String) (value : Held) : Registers :=
  (name, value) :: registers.filter fun (other, _) => other != name

/-- Registers with one of them emptied. -/
def discard (registers : Registers) (name : String) : Registers :=
  registers.filter fun (other, _) => other != name

/-! ### Handlers -/

/-- A handler for each slot that reports its call. -/
def reporting (count : Nat) : List (Payload → Call) :=
  (List.range count).map fun slot payload => (slot, .ofPayload payload)

/-- A handler for each slot that writes its call down. -/
def recording (count : Nat) : List (Payload → StateM (List Call) Unit) :=
  (List.range count).map fun slot payload => modify (· ++ [(slot, .ofPayload payload)])

/-- Handlers for the slots that are to have one. -/
def selected (handlers : List β) (chosen : List Bool) : List (Option β) :=
  (handlers.zip chosen).map fun (handler, use) => if use then some handler else none

/-- Handlers whose calls are written down next to those of a default. -/
def recordingSome (count : Nat) : List (Payload → StateM (List (Option Call)) Unit) :=
  (List.range count).map fun slot payload => modify (· ++ [some (slot, .ofPayload payload)])

/-! ### Filling a register -/

def construct (subject : Subject) (slots : Slots Payload) : Held := ⟨slots, subject.initialExtra⟩

def make (subject : Subject) (slot : Nat) (payload : Payload) : Held :=
  construct subject (Slots.only subject.shapes.length slot payload)

def payloadFor (subject : Subject) (slot : Nat) (payload : Datum) : Except Refusal Payload :=
  match subject.shapes[slot]? with
  | none => .error .badRequest
  | some shape =>
    match Datum.toPayload Catalog.shapes payload shape with
    | some payload => .ok payload
    | none => .error .badPayload

def slotsFor (subject : Subject) (slots : Datum) : Except Refusal (Slots Payload) :=
  match slots with
  | .list items =>
    match Datum.toSlots Catalog.shapes items subject.shapes with
    | some slots => .ok slots
    | none => .error .badPayload
  | _ => .error .badPayload

def deserialized (subject : Subject) (text : String) : Except Refusal Held :=
  if subject.layout.wire then
    (Value.read Catalog.shapes subject.record subject.initialExtra text).mapError .unread
  else .error .noSerde

def filling (subject : Subject) (registers : Registers) :
    Step → Option (String × Except Refusal Held)
  | .construct target slots =>
    some (target, (slotsFor subject slots).map (construct subject))
  | .factory target slot payload =>
    some (target, (payloadFor subject slot payload).map (make subject slot))
  | .convert target slot payload =>
    some <|
      if subject.layout.hasInto slot then
        (target, (payloadFor subject slot payload).map (make subject slot))
      else (target, .error .noConversion)
  | .deserialize target text => some (target, deserialized subject text)
  | .clone source target =>
    some
      (target,
        match registers.lookup source with
        | none => .error .noRegister
        | some value => if subject.layout.clone then .ok value else .error .noClone)
  | _ => none

/-! ### Looking at a register -/

def constantsReply (subject : Subject) : Reply := .constants subject.layout

def occupiedReply (subject : Subject) (value : Held) : Reply :=
  .occupied value.slots.occupiedIndex (value.slots.variantName subject.layout.variants)
    value.slots.isVacant

def accessorsReply (value : Held) : Reply :=
  .accessors (List.map (fun slot => (slot.isSome, slot.map .ofPayload)) value.slots)

def visitReply (subject : Subject) (value : Held) : Reply :=
  let run := subject.layout.visit value.slots (recording subject.shapes.length)
  let (result, calls) := run.run []
  .visited calls result

def mapOrElseReply (subject : Subject) (value : Held) (handlers : List Bool) : Reply :=
  let reports := (reporting subject.shapes.length).map fun report payload => some (report payload)
  .chosen (value.slots.mapOrElse (fun _ => none) (selected reports handlers))

def visitOrElseReply (subject : Subject) (value : Held) (handlers : List Bool) : Reply :=
  let default : StateM (List (Option Call)) Unit := modify (· ++ [none])
  let visitors := selected (recordingSome subject.shapes.length) handlers
  let run := value.slots.visitOrElse default visitors
  .ran (run.run []).2

def hashReply (subject : Subject) (value : Held) : Reply :=
  if subject.layout.equalities.hash then .bytes (value.slots.bytes Payload.bytes)
  else .refused .noHash

def serializeReply (subject : Subject) (value : Held) : Reply :=
  if subject.layout.wire then .text (value.text subject.layout.keys)
  else .refused .noSerde

/-- What a step says about a value without changing any register. -/
def observe (subject : Subject) (value : Held) : Step → Reply
  | .state _ => .state (stateOf value)
  | .occupied _ => occupiedReply subject value
  | .accessors _ => accessorsReply value
  | .map _ => .called (subject.layout.map value.slots (reporting subject.shapes.length))
  | .visit _ => visitReply subject value
  | .mapOrElse _ handlers => mapOrElseReply subject value handlers
  | .visitOrElse _ handlers => visitOrElseReply subject value handlers
  | .hash _ => hashReply subject value
  | .serialize _ => serializeReply subject value
  | _ => .refused .badRequest

/-! ### Steps -/

/-- Carries out what a step does with the value of a register. -/
def onRegister (registers : Registers) (name : String) (run : Held → Registers × Reply) :
    Registers × Reply :=
  match registers.lookup name with
  | none => (registers, .refused .noRegister)
  | some value => run value

/-- Takes the payload of a slot out of a register. The register keeps a value that is rejected. -/
def tryInto (subject : Subject) (registers : Registers) (name : String) (slot : Nat)
    (value : Held) : Registers × Reply :=
  if subject.layout.hasOutOf slot then
    match value.take slot with
    | .ok payload => (discard registers name, .taken (.ofPayload payload))
    | .error value => (store registers name value, .rejected (stateOf value))
  else (registers, .refused .noConversion)

/-- Compares the values of two registers; one register is one instance. -/
def compare (registers : Registers) (name other : String) (value : Held) : Registers × Reply :=
  match registers.lookup other with
  | none => (registers, .refused .noRegister)
  | some value' =>
    (registers, .compared (Placed.equal Payload.same ⟨name, value⟩ ⟨other, value'⟩))

def setExtra (subject : Subject) (registers : Registers) (name : String) (payload : Datum)
    (value : Held) : Registers × Reply :=
  match subject.extra with
  | none => (registers, .refused .badRequest)
  | some (shape, _) =>
    match Datum.toPayload Catalog.shapes payload shape with
    | none => (registers, .refused .badPayload)
    | some payload =>
      let value : Held := { value with extra := some payload }
      (store registers name value, .state (stateOf value))

def step (subject : Subject) (registers : Registers) (step : Step) : Registers × Reply :=
  match filling subject registers step with
  | some (target, .ok value) => (store registers target value, .state (stateOf value))
  | some (_, .error refusal) => (registers, .refused refusal)
  | none =>
    match step with
    | .constants => (registers, constantsReply subject)
    | .tryInto name slot => onRegister registers name (tryInto subject registers name slot)
    | .compare name other => onRegister registers name (compare registers name other)
    | .setExtra name payload =>
      onRegister registers name (setExtra subject registers name payload)
    | .state name | .occupied name | .accessors name | .map name | .visit name
    | .mapOrElse name _ | .visitOrElse name _ | .hash name | .serialize name =>
      onRegister registers name fun value => (registers, observe subject value step)
    | .construct .. | .factory .. | .convert .. | .deserialize .. | .clone .. | .unknown =>
      (registers, .refused .badRequest)

def run (subject : Subject) : Registers → List Step → List Reply
  | _, [] => []
  | registers, first :: rest =>
    let (registers, reply) := step subject registers first
    reply :: run subject registers rest

end Session

/-- The replies of a session on values of a named type; none if there is no such type. -/
def runSession (type : String) (steps : List Step) : Option (List Reply) :=
  (Catalog.subject? type).map fun subject => Session.run subject [] steps

end SlotSum
