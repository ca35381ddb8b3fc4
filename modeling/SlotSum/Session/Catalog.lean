import SlotSum.Inspect
import SlotSum.Value.Layout
import SlotSum.Value.Shape

/-!
The types whose values a session works on. Each is declared by its text, from which its layout
follows; the shapes say what the payload types stand for.
-/

namespace SlotSum

structure Subject where
  layout : Layout
  shapes : List Shape
  /-- The field that is no slot, and what the constructor puts there. -/
  extra : Option (Shape × Payload)
  deriving Inhabited

namespace Subject

def record (subject : Subject) : RecordShape := ⟨subject.layout.keys, subject.shapes⟩

def initialExtra (subject : Subject) : Option Payload := subject.extra.map Prod.snd

end Subject

/-- How a type of a session is declared. -/
structure CatalogEntry where
  name : String
  place : String
  options : String
  items : String
  shapes : List Shape
  extra : Option (Shape × Payload)
  deriving Inhabited

namespace Catalog

def i8 : IntegerKind := ⟨true, 1⟩
def u8 : IntegerKind := ⟨false, 1⟩
def i16 : IntegerKind := ⟨true, 2⟩
def u16 : IntegerKind := ⟨false, 2⟩
def i32 : IntegerKind := ⟨true, 4⟩
def u32 : IntegerKind := ⟨false, 4⟩
def i64 : IntegerKind := ⟨true, 8⟩

def braced (inner : String) : String := " \x7b " ++ inner ++ " \x7d"

def declared (head : String) (fields : List String) : String :=
  head ++ braced (", ".intercalate fields)

def slot (name type : String) : String := name ++ ": Option<" ++ type ++ ">"

def place : String := "oracle::types"

/-- A type without fields other than slots. -/
def plain (name options items : String) (shapes : List Shape) : CatalogEntry :=
  ⟨name, place, options, items, shapes, none⟩

def eitherItems : String :=
  declared "struct Either<L, R>" [slot "left" "L", slot "right" "R"]

def wrapperItems : String :=
  declared "struct Wrapper<T>" [slot "single" "T", slot "r#many" "Vec<T>"]

/-- The constructor of commands is written by hand. -/
def commandItems : String :=
  let fields := [slot "start" "String", slot "stop" "u32", "issued: i64"]
  let constructor :=
    "fn new(start: Option<String>, stop: Option<u32>) -> Self"
      ++ braced ("Self" ++ braced "start, stop, issued: 42")
  declared "#[derive(Clone)] struct Command" fields ++ " impl Command" ++ braced constructor

def entries : List CatalogEntry :=
  [ plain "Event" ""
      (declared "struct Event"
        [slot "created" "Created", slot "updated" "Updated", slot "deleted" "Deleted"])
      [.integer u32, .integer u32, .unit],
    plain "Reading" "no_hash"
      (declared "struct Reading" [slot "celsius" "f64", slot "raw" "u16"])
      [.float, .integer u16],
    plain "Data" "serde, eq"
      (declared "#[derive(Clone)] struct Data"
        [slot "text" "String", slot "number" "i64", slot "flag" "bool"])
      [.text, .integer i64, .boolean],
    plain "Names" ""
      (declared "struct Names"
        [slot "first_string" "String", slot "number" "u32", slot "second_string" "String"])
      [.text, .integer u32, .text],
    plain "Labels" ""
      (declared "struct Labels" [slot "short" "String", slot "qualified" "std::string::String"])
      [.text, .text],
    plain "Either" "eq" eitherItems [.integer u8, .text],
    plain "EitherSame" "eq" eitherItems [.integer u8, .integer u8],
    plain "Single" "" (declared "struct Single<T>" [slot "value" "T"]) [.integer i64],
    plain "Batch" ""
      (declared "struct Batch<T>"
        [slot "many" "Vec<T>", slot "boxed" "Box<T>", slot "label" "String"])
      [.list (.integer u8), .integer u8, .text],
    plain "Expr" "serde"
      (declared "struct Expr" [slot "literal" "i64", slot "negated" "Box<Expr>"])
      [.integer i64, .record "Expr"],
    { name := "Token"
      place := place ++ "::lexer"
      options := "serde"
      items :=
        declared "struct Token"
          [slot "_number" "i32", slot "r#type" "String", slot "wordList" "Vec<bool>"]
      shapes := [.integer i32, .text, .list .boolean]
      extra := none },
    plain "Flag" "serde" (declared "struct Flag" [slot "on" "()"]) [.unit],
    { name := "Command"
      place
      options := "eq, no_hash"
      items := commandItems
      shapes := [.text, .integer u32]
      extra := some (.integer i64, .integer i64 42) },
    { name := "Tagged"
      place
      options := ""
      items :=
        declared "struct Tagged"
          [ slot "label" "String", slot "count" "u32", "#[one_of(skip)] " ++ slot "cache" "i64",
            "pub note: String" ]
      shapes := [.text, .integer u32]
      extra := some (.optional (.integer i64), .optional none) },
    plain "MySet" "serde, eq"
      (declared "struct MySet" [slot "number" "Number", slot "text" "Text"])
      [.integer i32, .text],
    plain "WrapperU8" "serde" wrapperItems [.integer u8, .list (.integer u8)],
    plain "WrapperStr" "serde" wrapperItems [.text, .list .text],
    plain "Borrowed" ""
      (declared "struct Borrowed<'a, T>" [slot "text" "&'a str", slot "items" "Vec<T>"])
      [.text, .list (.integer u8)],
    plain "Tree" "no_hash"
      (declared "struct Tree<T>" [slot "leaf" "T", slot "node" "Box<(Tree<T>, Tree<T>)>"])
      [.integer i64, .pair (.record "Tree") (.record "Tree")],
    plain "Wide" "serde, eq"
      (declared "struct Wide"
        [ slot "tiny" "i8", slot "byte" "u8", slot "short" "i16", slot "word" "u16",
          slot "int" "i32", slot "uint" "u32", slot "long" "i64", slot "yes" "bool",
          slot "text" "String", slot "none" "()" ])
      [ .integer i8, .integer u8, .integer i16, .integer u16, .integer i32, .integer u32,
        .integer i64, .boolean, .text, .unit ],
    plain "Nested" "serde"
      (declared "struct Nested"
        [ slot "maybe" "Option<u8>", slot "pair" "(u8, bool)", slot "list" "Vec<Option<i64>>",
          slot "inner" "MySet" ])
      [ .optional (.integer u8), .pair (.integer u8) .boolean,
        .list (.optional (.integer i64)), .record "MySet" ] ]

def declared? (entry : CatalogEntry) : Option (String × Subject) :=
  match inspectItems entry.options entry.items with
  | .ok (.slots schema (.ok plan)) =>
    some (entry.name, ⟨.ofSchema entry.place schema plan, entry.shapes, entry.extra⟩)
  | _ => none

def subjects : List (String × Subject) := entries.filterMap declared?

def subject? (name : String) : Option Subject := subjects.lookup name

/-- The shapes of the types that occur inside others. -/
def shapes : Shapes := fun name => (subject? name).map Subject.record

end Catalog

end SlotSum
