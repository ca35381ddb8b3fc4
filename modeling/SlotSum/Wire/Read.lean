import SlotSum.Value.Shape
import SlotSum.Wire.Scan
import SlotSum.Wire.Write

/-!
Reading values. A text is read from its beginning, so the first problem is the one that is
reported, be it a fault of the text or a value that does not fit.
-/

namespace SlotSum

inductive Rejection where
  /-- The text has a fault, or it nests too deeply. -/
  | malformed
  | invalidType (found expected : String)
  | invalidValue (found : Int) (expected : String)
  | invalidLength (length : Nat) (expected : String)
  | unknownVariant (key : String) (keys : List String)
  deriving DecidableEq, Repr, Inhabited

namespace Rejection

/-- Keys as a choice. -/
def choice (keys : List String) : String :=
  match keys.map fun key => "`" ++ key ++ "`" with
  | [only] => only
  | [first, second] => first ++ " or " ++ second
  | all => "one of " ++ ", ".intercalate all

def message : Rejection → String
  | malformed => ""
  | invalidType found expected => "invalid type: " ++ found ++ ", expected " ++ expected
  | invalidValue found expected =>
    "invalid value: integer `" ++ toString found ++ "`, expected " ++ expected
  | invalidLength length expected =>
    "invalid length " ++ toString length ++ ", expected " ++ expected
  | unknownVariant key keys => "unknown variant `" ++ key ++ "`, expected " ++ choice keys

end Rejection

abbrev Reading (α : Type) := Except Rejection α

/-- What is wrong with a value of the wrong kind. Brackets are enough to tell a sequence or a map;
everything else is read first. -/
def Json.mismatch (expected : String) : Json → Rejection
  | .null => .invalidType "null" expected
  | .boolean value => .invalidType ("boolean `" ++ toString value ++ "`") expected
  | .number (.integer value) => .invalidType ("integer `" ++ toString value ++ "`") expected
  | .number (.fraction negative magnitude) =>
    let text := Json.numberText (.fraction negative magnitude)
    .invalidType ("floating point `" ++ text ++ "`") expected
  | .number .tooLarge => .malformed
  | .text (some value) => .invalidType ("string " ++ Quoted.shown value) expected
  | .text none => .malformed
  | .array .. => .invalidType "sequence" expected
  | .object .. => .invalidType "map" expected
  | .broken => .malformed

/-! ### Slots -/

/-- The end of a map of which one entry has been read: all others are skipped and counted. -/
def Entry.finish (expected : String) (rest : List Entry) (closed : Bool) : Reading Unit :=
  if closed && rest.all fun entry => entry.key.isSome && entry.value.isComplete then
    if rest.isEmpty then .ok () else .error (.invalidLength (rest.length + 1) expected)
  else .error .malformed

/-- Reads the entries of a map. The key of the first entry chooses the slot, and the slot how its
payload is read. -/
def Slots.readEntries (keys : List String) (read : Nat → Json → Reading α) :
    List Entry → Bool → Reading (Slots α)
  | [], closed => if closed then .ok (Slots.vacant keys.length) else .error .malformed
  | entry :: rest, closed =>
    match entry.key with
    | none => .error .malformed
    | some key =>
      match keys.idxOf? key with
      | none => .error (.unknownVariant key keys)
      | some index => do
        let payload ← read index entry.value
        Entry.finish (Slots.expectation keys) rest closed
        return Slots.only keys.length index payload

/-! ### Payloads -/

/-- How a payload of a shape is read. -/
abbrev Reader := Shape → Json → Reading Payload

namespace Reader

def unit : Json → Reading Payload
  | .null => .ok .unit
  | other => .error (other.mismatch "unit")

def boolean : Json → Reading Payload
  | .boolean value => .ok (.boolean value)
  | other => .error (other.mismatch "a boolean")

def integer (kind : IntegerKind) : Json → Reading Payload
  | .number (.integer value) =>
    if kind.contains value then .ok (.integer kind value)
    else .error (.invalidValue value kind.name)
  | other => .error (other.mismatch kind.name)

/-- The bits of a magnitude with a sign. -/
def signedBits (negative : Bool) (magnitude : Magnitude) : Nat :=
  magnitude.bits + if negative then 1 <<< 63 else 0

def float : Json → Reading Payload
  | .number (.integer value) =>
    .ok (.float (signedBits (value < 0) ((Magnitude.ofRatio value.natAbs 1).getD .zero)))
  | .number (.fraction negative magnitude) => .ok (.float (signedBits negative magnitude))
  | other => .error (other.mismatch "f64")

def text : Json → Reading Payload
  | .text (some value) => .ok (.text value)
  | other => .error (other.mismatch "a string")

def items (read : Json → Reading Payload) : List Json → Bool → Reading (List Payload)
  | [], closed => if closed then .ok [] else .error .malformed
  | first :: rest, closed => do
    let payload ← read first
    return payload :: (← items read rest closed)

/-- The elements of a pair; there must be no third one. -/
def pair (first second : Json → Reading Payload) : List Json → Bool → Reading Payload
  | [], closed => .error (missing 0 closed)
  | [left], closed => do
    let _ ← first left
    .error (missing 1 closed)
  | left :: right :: rest, closed => do
    let left ← first left
    let right ← second right
    if closed && rest.isEmpty then .ok (.pair left right) else .error .malformed
where
  /-- The list ends after too few elements. -/
  missing (count : Nat) (closed : Bool) : Rejection :=
    if closed then .invalidLength count "a tuple of size 2" else .malformed

/-- Reads the slots of a named type; `below` reads what is nested in brackets, where that may be. -/
def slots (below : Option Reader) (record : RecordShape) : Json → Reading (Slots Payload)
  | .object entries closed =>
    match below with
    | none => .error .malformed
    | some read =>
      let readSlot (index : Nat) (json : Json) : Reading Payload :=
        match record.shapes[index]? with
        | some shape => read shape json
        | none => .error .malformed
      Slots.readEntries record.keys readSlot entries closed
  | other => .error (other.mismatch (Slots.expectation record.keys))

/-- Reads a payload; `below` reads what is nested in brackets, if that is allowed. -/
def atLevel (shapes : Shapes) (below : Option Reader) : Reader
  | .unit => unit
  | .boolean => boolean
  | .integer kind => integer kind
  | .float => float
  | .text => text
  | .list item => fun json =>
    match json with
    | .array values closed =>
      match below with
      | none => .error .malformed
      | some read => (items (read item) values closed).map .list
    | other => .error (other.mismatch "a sequence")
  | .optional inner => fun json =>
    match json with
    | .null => .ok (.optional none)
    | other => (atLevel shapes below inner other).map fun payload => .optional (some payload)
  | .pair first second => fun json =>
    match json with
    | .array values closed =>
      match below with
      | none => .error .malformed
      | some read => pair (read first) (read second) values closed
    | other => .error (other.mismatch "a tuple of size 2")
  | .record name => fun json =>
    match shapes name with
    | none => .error .malformed
    | some record => (slots below record json).map (.record record.keys)

/-- Reads a payload with a number of brackets around its innermost parts. -/
def nested (shapes : Shapes) : Nat → Reader
  | 0 => atLevel shapes none
  | depth + 1 => atLevel shapes (some (nested shapes depth))

/-- How many brackets may be open at once. -/
def depthLimit : Nat := 127

end Reader

/-- Reads a value of a named type from its wire form. -/
def Slots.ofJson (shapes : Shapes) (record : RecordShape) (json : Json) :
    Reading (Slots Payload) :=
  Reader.slots (some (Reader.nested shapes (Reader.depthLimit - 1))) record json

/-- Reads a whole text; nothing may follow the value. -/
def Document.read (shapes : Shapes) (record : RecordShape) (document : Document) :
    Reading (Slots Payload) := do
  let slots ← Slots.ofJson shapes record document.value
  if document.ended then .ok slots else .error .malformed

/-- Reads a value from a text. Fields that are no slots are what the constructor makes them. -/
def Value.read (shapes : Shapes) (record : RecordShape) (initial : β) (text : String) :
    Reading (Value Payload β) :=
  (Document.read shapes record (Document.scan text)).map fun slots => ⟨slots, initial⟩

end SlotSum
