import SlotSum.Source.Cursor

/-!
What can be wrong with a declaration. A complaint says what is wrong, a diagnostic also where.
-/

namespace SlotSum

inductive Complaint where
  | unreadable (fault : Fault)
  | bareAttribute (path : String)
  | assignedAttribute (path : String)
  | assignedOptions
  | notAStruct
  | repeatedOptions
  | noStruct
  | secondStruct
  /-- Two slots give their factories one name. -/
  | sameStem (later earlier stem : String)
  /-- A constructor written by hand does not take the slots, each with its shown payload type. -/
  | otherConstructor (slots : List (String × String))
  | derivedTwice (trait : String)
  deriving DecidableEq, Repr

namespace Complaint

def message : Complaint → String
  | unreadable fault => fault.message
  | bareAttribute path =>
    "expected attribute arguments in parentheses: #[" ++ path ++ "(...)]"
  | assignedAttribute path => "expected parentheses: #[" ++ path ++ "(...)]"
  | assignedOptions => "expected `#[one_of]` or `#[one_of(...)]`"
  | notAStruct => "#[one_of] can only be applied to a struct"
  | repeatedOptions => "only one #[one_of(...)] attribute is allowed on the struct"
  | noStruct => "one_of_block! expects a struct declaration"
  | secondStruct => "one_of_block! accepts exactly one struct"
  | sameStem later earlier stem =>
    "`" ++ later ++ "` and `" ++ earlier ++ "` both generate `from_" ++ stem ++ "`"
  | otherConstructor slots =>
    let params := slots.map fun (name, payload) => name ++ ": Option<" ++ payload ++ ">"
    "`new` is used by the generated factories and must have the signature `fn new("
      ++ ", ".intercalate params ++ ")`"
  | derivedTwice trait =>
    "`" ++ trait ++ "` is implemented by #[one_of] and cannot also be derived"

end Complaint

structure Diagnostic where
  complaint : Complaint
  span : Span
  deriving DecidableEq, Repr

namespace Diagnostic

def message (diagnostic : Diagnostic) : String := diagnostic.complaint.message

/-- A production that failed, as a diagnostic. -/
def ofFault (fault : Fault) : Diagnostic := ⟨.unreadable fault, fault.span⟩

end Diagnostic

/-- A result, or at least one diagnostic in the order in which they are reported. -/
abbrev Checked (α : Type) := Except (List Diagnostic) α

end SlotSum
