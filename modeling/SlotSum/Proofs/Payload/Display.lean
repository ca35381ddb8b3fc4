import SlotSum.Inspect
import SlotSum.Proofs.Expansion.Constructor
import SlotSum.Proofs.Payload.Ordinary
import SlotSum.Value.Layout

/-!
Shown types are read back. What a type is shown by is read as a type, and as one with the same key
unless spaces were dropped from a literal. Slots whose payloads are shown alike then hold payloads of
one key.
-/

namespace SlotSum

open Parse

/-! ### Reading as a whole -/

theorem Parse.run_of_takes {production : Parse α} {tokens : List Token} {value : α}
    (taken : Takes production tokens [] value) : run production tokens = .ok value := by
  obtain ⟨last, read⟩ := taken .callSite .callSite
  rw [run, inside, read]
  rfl

theorem ReadsPlain.source {symbols : List Symbol} {tokens : List Token}
    (reads : ReadsPlain true symbols) (spells : Spells symbols tokens) :
    ∃ type, Source.type tokens = .ok type ∧ type.trees = Symbol.trees symbols ∧
      type.bare = type := by
  obtain ⟨depth, enough⟩ : ∃ depth, Source.depth tokens = depth + 1 := ⟨_, rfl⟩
  have fits : Token.sizes tokens ≤ depth := by
    rw [Source.depth] at enough
    omega
  obtain ⟨type, ⟨shown, bare⟩, taken⟩ := reads tokens [] depth spells fits (stops_nil true)
  refine ⟨type, run_of_takes fun scope last => ?_, shown, bare⟩
  obtain ⟨last', read⟩ := taken scope last
  rw [List.append_nil] at read
  have whole : Rules.whole.type .whole ⟨tokens, scope, last⟩ =
      (Rules.level (Source.depth tokens)).type .whole ⟨tokens, scope, last⟩ := rfl
  refine ⟨last', ?_⟩
  beta_reduce
  rw [whole, enough]
  exact read

/-! ### Literals that are kept -/

namespace Symbol

/-- The text that symbols print. -/
def text (symbols : List Symbol) : String := Tree.renderAll (trees symbols)

theorem trees_isEmpty (symbols : List Symbol) : (trees symbols).isEmpty = symbols.isEmpty := by
  cases symbols <;> rfl

mutual

/-- Tightening literals makes a text shorter, unless it keeps all of them. -/
theorem length_tightened : (symbol : Symbol) →
    symbol.tightened.tree.render.length ≤ symbol.tree.render.length ∧
      (symbol.tightened.tree.render.length = symbol.tree.render.length → symbol.tightened = symbol)
  | word _ => ⟨Nat.le_refl _, fun _ => rfl⟩
  | lifetime _ => ⟨Nat.le_refl _, fun _ => rfl⟩
  | operator _ => ⟨Nat.le_refl _, fun _ => rfl⟩
  | literal text => by
      have sheds := Ty.sheds_tighten text.toList
      rw [tightened, render_literal, render_literal, String.length_ofList, ← String.length_toList]
      refine ⟨sheds.length_le, fun same => ?_⟩
      rw [sheds.eq_of_length (Nat.le_of_eq same.symm), String.ofList_toList]
  | group delimiter inner => by
      obtain ⟨le, same⟩ := length_tightenedAll inner
      rw [tightened, tree, tree, Tree.render, Tree.render, trees_isEmpty, trees_isEmpty]
      cases inner with
      | nil => exact ⟨Nat.le_refl _, fun _ => rfl⟩
      | cons first rest =>
          simp only [text] at le same
          cases delimiter
          all_goals
            simp only [tightenedAll, List.isEmpty_cons, Tree.enclose, String.length_append] at le same ⊢
            refine ⟨by omega, fun eq => ?_⟩
            rw [same (by omega)]

theorem length_tightenedAll : (symbols : List Symbol) →
    (text (tightenedAll symbols)).length ≤ (text symbols).length ∧
      ((text (tightenedAll symbols)).length = (text symbols).length →
        tightenedAll symbols = symbols)
  | [] => ⟨Nat.le_refl _, fun _ => rfl⟩
  | first :: rest => by
      obtain ⟨le, same⟩ := length_tightened first
      obtain ⟨le', same'⟩ := length_tightenedAll rest
      have gap : Tree.gap first.tightened.tree (trees (tightenedAll rest)) =
          Tree.gap first.tree (trees rest) := by
        cases rest <;> simp [tightenedAll, trees, Tree.gap, joint_tree]
      simp only [text, tightenedAll, trees, Tree.renderAll, gap, String.length_append] at le' same' ⊢
      refine ⟨by omega, fun eq => ?_⟩
      rw [same (by omega), same' (by omega)]

end

theorem text_tightenedAll {symbols : List Symbol} :
    text (tightenedAll symbols) = text symbols ↔ tightenedAll symbols = symbols := by
  constructor
  · intro same
    exact (length_tightenedAll symbols).2 (by rw [same])
  · intro kept
    rw [kept]

end Symbol

/-! ### Shown types -/

namespace Ty

/-- The type prints the symbols, and with their literals tightened they are a type as well. -/
structure Displays (type : Ty) (symbols : List Symbol) : Prop where
  prints : type.bare.trees = Symbol.trees symbols
  showable : AreShowable symbols
  phrase : Phrase (.plain true) (Symbol.tightenedAll symbols)

/-- The type prints symbols whose literals are all kept where it is shown. -/
def IsKept (type : Ty) : Prop :=
  ∃ symbols, type.Displays symbols ∧ Symbol.tightenedAll symbols = symbols

theorem Displays.key_eq {type : Ty} {symbols : List Symbol} (displays : type.Displays symbols) :
    type.key = Symbol.text symbols := by
  rw [key, text, displays.prints, Symbol.text]

theorem Displays.read {type : Ty} {symbols : List Symbol} (displays : type.Displays symbols) :
    ∃ read, readType type.display = .ok read ∧
      read.key = Symbol.text (Symbol.tightenedAll symbols) := by
  obtain ⟨tokens, lexed, spells⟩ := lex_display displays.showable displays.prints
  obtain ⟨read, parsed, shown, bare⟩ := ReadsPlain.source displays.phrase.read spells
  refine ⟨read, ?_, ?_⟩
  · rw [readType, Attempt.lexed, lexed]
    change Attempt.parsed (Source.type tokens) = _
    rw [parsed]
    rfl
  · rw [key, bare, text, shown, Symbol.text]

theorem isKept_of_isOrdinary {type : Ty} (ordinary : type.isOrdinary true = true) :
    type.IsKept := by
  obtain ⟨symbols, shown, kept, phrase⟩ := (isPrinted type ordinary).2 rfl
  exact ⟨symbols, ⟨shown, kept.showable, by rwa [kept.same]⟩, kept.same⟩

theorem IsKept.read {type : Ty} (kept : type.IsKept) :
    ∃ read, readType type.display = .ok read ∧ read.key = type.key := by
  obtain ⟨symbols, displays, same⟩ := kept
  obtain ⟨read, parsed, shown⟩ := displays.read
  exact ⟨read, parsed, by rw [shown, displays.key_eq, same]⟩

theorem display_eq_iff {first second : Ty} (kept : first.IsKept) (kept' : second.IsKept) :
    first.display = second.display ↔ first.key = second.key := by
  obtain ⟨read, parsed, same⟩ := kept.read
  obtain ⟨read', parsed', same'⟩ := kept'.read
  constructor
  · intro alike
    rw [alike, parsed'] at parsed
    cases parsed
    rw [← same, ← same']
  · intro alike
    rw [display, display, alike]

/-- A type that prints as the grammar says is read back from what it is shown by. The key is the same
if and only if no literal loses a space by being shown, so it always is where the type is built from
names. Slots whose payloads are such types then have the same entry among the payload types, and among
the expected types of a dispatch that finds no slot occupied, if and only if their payloads have the
same key. -/
theorem display_decides {type : Ty} {symbols : List Symbol} (displays : type.Displays symbols) :
    (∃ read, readType type.display = .ok read ∧
      (read.key = type.key ↔ Symbol.tightenedAll symbols = symbols)) ∧
    (∀ ordinary : Ty, ordinary.isOrdinary true = true →
      ordinary.IsKept ∧ ∃ read, readType ordinary.display = .ok read ∧ read.key = ordinary.key) ∧
    ∀ (place : String) (schema : Schema) (plan : Plan) (i j : Nat) (first second : Slot),
      schema.slots[i]? = some first → schema.slots[j]? = some second →
      first.payload.IsKept → second.payload.IsKept →
      ((Layout.ofSchema place schema plan).payloadTypes[i]? =
        (Layout.ofSchema place schema plan).payloadTypes[j]? ↔
          first.payload.key = second.payload.key) ∧
      ((Layout.ofSchema place schema plan).noVariantOccupied.expected[i]? =
        (Layout.ofSchema place schema plan).noVariantOccupied.expected[j]? ↔
          first.payload.key = second.payload.key) := by
  refine ⟨?_, fun ordinary named => ?_, fun place schema plan i j first second => ?_⟩
  · obtain ⟨read, parsed, shown⟩ := displays.read
    refine ⟨read, parsed, ?_⟩
    rw [shown, displays.key_eq]
    exact Symbol.text_tightenedAll
  · have kept := isKept_of_isOrdinary named
    exact ⟨kept, kept.read⟩
  · intro here there kept kept'
    simp [Layout.noVariantOccupied, Layout.ofSchema, here, there, display_eq_iff kept kept']

/-! ### Types with names, numbers and texts -/

/-- Shown as `Vec<&'static str>`. -/
def nameList : Ty :=
  .path false [.mk "Vec"
    (.angle false [.type (.reference (some "'static") false (.path false [.mk "str" .none]))] false)]

/-- Shown as `[u8; 4]`. -/
def fourBytes : Ty := .array (.path false [.mk "u8" .none]) [.literal [] false "4"]

/-- Its text loses a space where it is shown. -/
def spacedTag : Ty :=
  .path false [.mk "Tag" (.angle false [.const [.literal [] false "\"( \""]] false)]

/-- What a tag with a text prints. -/
def tagSymbols : List Symbol :=
  [.word "Tag", .operator "<", .literal "\"( \"", .operator ">"]

theorem displays_spacedTag : spacedTag.Displays tagSymbols ∧
    Symbol.tightenedAll tagSymbols =
      [.word "Tag", .operator "<", .literal "\"(\"", .operator ">"] := by
  have shown : Symbol.tightenedAll tagSymbols =
      [.word "Tag", .operator "<", .literal "\"(\"", .operator ">"] := by
    have text : String.ofList (tighten "\"( \"".toList) = "\"(\"" := by decide
    simp only [tagSymbols, Symbol.tightenedAll, Symbol.tightened, text]
  have verbatim : Lexeme.IsVerbatim ['(', ' '] := by simp [Lexeme.IsVerbatim]
  refine ⟨⟨rfl, ?_, ?_⟩, shown⟩
  · exact .word (isWord_of_plain (by decide)).1 (by decide) <|
      .operator (isOperator_of_mem (by simp)) <|
      .literal (isShowable_verbatim verbatim) <|
      .operator (isOperator_of_mem (by simp)) .nil
  · have argument : ∀ part ∈ [[.literal "\"(\""]], Phrase .argument part := by
      simpa using Phrase.constant (.literal "\"(\"")
    have isName : IsName "Tag" := .inl (by decide)
    have segment := Phrase.angle isName false false [] argument
    have path : Phrase (.plain true) (Symbol.root false ++ Symbol.path [_]) :=
      .path false (.segments (by simp) (by simpa using segment))
    rw [shown]
    simpa [Symbol.root, Symbol.path, Symbol.commas, Symbol.lifetimes] using path

/-- A declaration with a list of names and some bytes. -/
def labelled : Schema :=
  { owner := ⟨"Label", .callSite⟩, visibility := .inherited, generics := .empty
    slots := [⟨⟨"names", .callSite⟩, nameList⟩, ⟨⟨"bytes", .callSite⟩, fourBytes⟩]
    others := [], derives := [], constructor := none }

theorem display_decides_labelled :
    (∃ read, readType fourBytes.display = .ok read ∧ read.key = fourBytes.key) ∧
    (∃ read, readType spacedTag.display = .ok read ∧ read.key ≠ spacedTag.key) ∧
    ∃ plan, Plan.analyze labelled .default = .ok plan ∧
      (Layout.ofSchema "labels" labelled plan).payloadTypes = ["Vec<&'static str>", "[u8; 4]"] ∧
      (Layout.ofSchema "labels" labelled plan).payloadTypes[0]? ≠
        (Layout.ofSchema "labels" labelled plan).payloadTypes[1]? := by
  obtain ⟨displays, shown⟩ := displays_spacedTag
  obtain ⟨⟨read, parsed, same⟩, named, entries⟩ := display_decides displays
  obtain ⟨keptNames, -⟩ := named nameList (by decide)
  obtain ⟨keptBytes, readBytes⟩ := named fourBytes (by decide)
  refine ⟨readBytes, ⟨read, parsed, fun equal => ?_⟩, ?_⟩
  · have kept := same.mp equal
    rw [shown] at kept
    simp [tagSymbols] at kept
  · have accepted : (Plan.analyze labelled .default).toOption.isSome = true := by decide +kernel
    obtain ⟨plan, found⟩ := Option.isSome_iff_exists.mp accepted
    have apart : nameList.key ≠ fourBytes.key := by decide +kernel
    have equal : (Layout.ofSchema "labels" labelled plan).payloadTypes[0]? =
        (Layout.ofSchema "labels" labelled plan).payloadTypes[1]? ↔ nameList.key = fourBytes.key :=
      (entries "labels" labelled plan 0 1 _ _ rfl rfl keptNames keptBytes).1
    refine ⟨plan, toOption_eq_some.mp found, ?_, fun same => apart (equal.mp same)⟩
    have names : nameList.display = "Vec<&'static str>" := by decide +kernel
    have bytes : fourBytes.display = "[u8; 4]" := by decide +kernel
    simp [Layout.ofSchema, labelled, names, bytes]

/-- The key of a type, what it is shown by, and the key of what is read of that. -/
def surveyedType (text : String) : Option (String × String × Option String) := do
  let type ← (readType text).toOption
  return (type.key, type.display, (readType type.display).toOption.map Ty.key)

/-- The keys of the payloads of a block and the entries among its payload types. -/
def surveyedEntries (text : String) : Option (List String × List String) := do
  let (_, _, _, schema) ← readBlock text
  let plan ← (Plan.analyze schema .default).toOption
  return (schema.slots.map fun slot => slot.payload.key,
    (Layout.ofSchema "labels" schema plan).payloadTypes)

/-- Two slots whose payloads differ by a space in a literal have the same entry. Colons and ampersands
that are joined by being shown make a text that does not read, or reads as another type. -/
theorem display_decides_altered :
    (∃ block items item schema plan,
      readBlock "struct S \x7b a: Option<[u8; \"( \".len()]>, b: Option<[u8; \"(\".len()]> \x7d" =
        some (block, items, item, schema) ∧
      Plan.analyze schema .default = .ok plan ∧
      (schema.slots.map fun slot => slot.payload.key) =
        ["[u8 ; \"( \" . len ()]", "[u8 ; \"(\" . len ()]"] ∧
      (Layout.ofSchema "labels" schema plan).payloadTypes =
        ["[u8; \"(\" . len ()]", "[u8; \"(\" . len ()]"]) ∧
    (∃ type, readType "fn(x: ::A)" = .ok type ∧ ∀ read, readType type.display ≠ .ok read) ∧
    ∃ type read, readType "[u8; N & &M]" = .ok type ∧ readType type.display = .ok read ∧
      type.key = "[u8 ; N & & M]" ∧ read.key = "[u8 ; N && M]" := by
  refine ⟨?_, ?_, ?_⟩
  · have surveyed : surveyedEntries
        "struct S \x7b a: Option<[u8; \"( \".len()]>, b: Option<[u8; \"(\".len()]> \x7d" =
        some (["[u8 ; \"( \" . len ()]", "[u8 ; \"(\" . len ()]"],
          ["[u8; \"(\" . len ()]", "[u8; \"(\" . len ()]"]) := by
      decide +kernel
    simp only [surveyedEntries, Option.bind_eq_bind, Option.bind_eq_some_iff, Option.pure_def,
      Option.some.injEq, Prod.exists, Prod.mk.injEq, toOption_eq_some] at surveyed
    obtain ⟨block, items, item, schema, read, plan, accepted, keys, entries⟩ := surveyed
    exact ⟨block, items, item, schema, plan, read, accepted, keys, entries⟩
  · have surveyed : surveyedType "fn(x: ::A)" = some ("fn (x : :: A)", "fn (x :::A)", none) := by
      decide +kernel
    simp only [surveyedType, Option.bind_eq_bind, Option.bind_eq_some_iff, Option.pure_def,
      Option.some.injEq, Prod.mk.injEq, Option.map_eq_none_iff, toOption_eq_some] at surveyed
    obtain ⟨type, parsed, -, -, unread⟩ := surveyed
    refine ⟨type, parsed, fun read parsed' => ?_⟩
    rw [toOption_eq_some.mpr parsed'] at unread
    cases unread
  · have surveyed : surveyedType "[u8; N & &M]" =
        some ("[u8 ; N & & M]", "[u8; N &&M]", some "[u8 ; N && M]") := by
      decide +kernel
    simp only [surveyedType, Option.bind_eq_bind, Option.bind_eq_some_iff, Option.pure_def,
      Option.some.injEq, Prod.mk.injEq, Option.map_eq_some_iff, toOption_eq_some] at surveyed
    obtain ⟨type, parsed, key, -, read, parsed', key'⟩ := surveyed
    exact ⟨type, read, parsed, parsed', key, key'⟩

end Ty

end SlotSum
