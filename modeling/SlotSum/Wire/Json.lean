import SlotSum.Token.Quoted
import SlotSum.Wire.Magnitude

/-!
JSON values as they are met in a text. A text that is faulty is kept up to its first fault, because
what a reader reports depends on whether it gets there; what a text may hold is narrower for a
value that is read than for one that is skipped.
-/

namespace SlotSum

/-- A number: an integer that fits into 64 bits, or a binary fraction. -/
inductive Number where
  | integer (value : Int)
  | fraction (negative : Bool) (magnitude : Magnitude)
  /-- Larger than all binary fractions; it can be skipped but not read. -/
  | tooLarge
  deriving DecidableEq, Repr, Inhabited

mutual

inductive Json where
  | null
  | boolean (value : Bool)
  | number (value : Number)
  /-- A string; none if its escapes do not encode characters, so that it can only be skipped. -/
  | text (value : Option String)
  /-- Elements, and whether the array is closed behind them. -/
  | array (items : List Json) (closed : Bool)
  | object (entries : List Entry) (closed : Bool)
  /-- A fault where a value is due. -/
  | broken
  deriving Repr

/-- A key, as far as its escapes encode characters, with its value. -/
inductive Entry where
  | mk (key : Option String) (value : Json)
  deriving Repr

end

instance : Inhabited Json := ⟨.null⟩
instance : Inhabited Entry := ⟨⟨none, .null⟩⟩

namespace Entry

def key : Entry → Option String
  | mk key _ => key

def value : Entry → Json
  | mk _ value => value

end Entry

namespace Json

mutual

/-- There is no fault in a value, so that it can be skipped. -/
def isComplete : Json → Bool
  | null => true
  | boolean _ => true
  | number _ => true
  | text _ => true
  | array items closed => areComplete items && closed
  | object entries closed => entriesComplete entries && closed
  | broken => false

def areComplete : List Json → Bool
  | [] => true
  | first :: rest => first.isComplete && areComplete rest

def entriesComplete : List Entry → Bool
  | [] => true
  | .mk _ value :: rest => value.isComplete && entriesComplete rest

end

/-! ### Text -/

def escape (c : Char) : String :=
  match c with
  | '\"' => "\\\""
  | '\\' => "\\\\"
  | '\x08' => "\\b"
  | '\x0c' => "\\f"
  | '\n' => "\\n"
  | '\r' => "\\r"
  | '\t' => "\\t"
  | _ =>
    if c.toNat < 0x20 then
      "\\u00" ++ (if c.toNat < 0x10 then "0" else "1") ++
        String.singleton (Nat.digitChar (c.toNat % 0x10))
    else String.singleton c

def quote (text : String) : String := "\"" ++ String.join (text.toList.map escape) ++ "\""

/-- A number as it is written and shown. -/
def numberText : Number → String
  | .integer value => toString value
  | .fraction negative magnitude => (if negative then "-" else "") ++ magnitude.text
  | .tooLarge => ""

mutual

/-- The compact text of a value. -/
def write : Json → String
  | null => "null"
  | boolean value => if value then "true" else "false"
  | number value => numberText value
  | text value => quote (value.getD "")
  | array items _ => "[" ++ writeItems items ++ "]"
  | object entries _ => "\x7b" ++ writeEntries entries ++ "\x7d"
  | broken => ""

def writeItems : List Json → String
  | [] => ""
  | [last] => last.write
  | first :: rest => first.write ++ "," ++ writeItems rest

def writeEntries : List Entry → String
  | [] => ""
  | [.mk key value] => quote (key.getD "") ++ ":" ++ value.write
  | .mk key value :: rest => quote (key.getD "") ++ ":" ++ value.write ++ "," ++ writeEntries rest

end

end Json

end SlotSum
