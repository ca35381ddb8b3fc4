import Mathlib.Data.List.Forall2
import SlotSum.Proofs.Expansion.Block
import SlotSum.Proofs.Expansion.Names
import SlotSum.Proofs.Payload.Identifier
import SlotSum.Proofs.Value.Conversion

/-!
Who writes the constructor. The expansion of a block looks for a function named `new` in the
implementations of the structure and writes one itself if it finds none. It compares names by their
text, so what it does not notice are functions and implementations whose names differ from those of
the constructor and the structure only in the mark of a raw name: then there are two constructors.
-/

namespace SlotSum

/-! ### Functions of the structure -/

/-- An inherent implementation of the structure, whose type ends in the name of the structure. -/
def ImplItem.isInherent (impl_ : ImplItem) (item : StructItem) : Bool :=
  !impl_.ofTrait &&
    match impl_.selfType.bare with
    | .path _ segments =>
      segments.getLast?.any fun last => isSameIdentifier last.name item.name.text
    | _ => false

def implsIn (items : List Item) : List ImplItem :=
  items.filterMap fun other => match other with
    | .impl impl_ => some impl_
    | _ => none

/-- The functions in the inherent implementations of the structure, each with the implementation
that it stands in. -/
def writtenFunctions (item : StructItem) (items : List Item) : List (ImplItem × Signature) :=
  ((implsIn items).filter fun impl_ => impl_.isInherent item).flatMap fun impl_ =>
    (Schema.functionsOf impl_).map fun signature => (impl_, signature)

/-- The constructors that are written next to the structure. -/
def writtenConstructors (item : StructItem) (items : List Item) : List (ImplItem × Signature) :=
  (writtenFunctions item items).filter fun written => isSameIdentifier written.2.name.text "new"

/-- The constructor is noticed: neither its name nor that of the structure is spelled in two ways. -/
def isNoticed (item : StructItem) (written : ImplItem × Signature) : Bool :=
  Declaration.owns item written.1 && written.2.name.text == "new"

/-- A function of the structure in an expanded block. -/
inductive Inherent where
  | written (signature : Signature)
  | generated (function : Function)

namespace Inherent

def name : Inherent → String
  | written signature => signature.name.text
  | generated function => function.name

def isConstructor (function : Inherent) : Bool := isSameIdentifier function.name "new"

end Inherent

/-- All functions of the structure: those in the implementations that are written, and those in the
one that is generated. -/
def inherentFunctions (item : StructItem) (items : List Item) (schema : Schema) (plan : Plan) :
    List Inherent :=
  (writtenFunctions item items).map (fun written => .written written.2) ++
    (schema.expansion plan).own.functions.map .generated

/-! ### Parameters -/

/-- A parameter whose type is optional, with the payload of the slot. -/
def Input.Takes (input : Input) (slot : Slot) : Prop :=
  ∃ attributes pattern type payload, input = .typed attributes pattern type ∧
    type.payload? = some payload ∧ payload.key = slot.payload.key

/-- No receiver, and one parameter for each slot, in order. Dots after the parameters are left out
of account. -/
structure Signature.Takes (signature : Signature) (slots : List Slot) : Prop where
  noReceiver : signature.hasReceiver = false
  inputs : List.Forall₂ Input.Takes signature.inputs slots

/-- A constructor that fits the calls of the factories. -/
inductive Inherent.Fits (slots : List Slot) : Inherent → Prop
  | written (takes : signature.Takes slots) (noDots : signature.variadic = []) :
      Fits slots (.written signature)
  | generated (noReceiver : function.receiver = .absent)
      (parameters : List.Forall₂ (fun parameter slot =>
        parameter.type = optionalOf slot.payloadTrees) function.parameters slots) :
      Fits slots (.generated function)

theorem Input.takes_iff {input : Input} {slot : Slot} :
    Plan.takesSlot input slot = true ↔ input.Takes slot := by
  cases input with
  | receiver nodes => simp [Plan.takesSlot, Takes]
  | typed attributes pattern type =>
      simp only [Plan.takesSlot, Option.any_eq_true, beq_iff_eq, Takes]
      constructor
      · rintro ⟨payload, found, same⟩
        exact ⟨attributes, pattern, type, payload, rfl, found, same⟩
      · rintro ⟨_, _, _, payload, ⟨⟩, found, same⟩
        exact ⟨payload, found, same⟩

theorem Signature.takes_iff {signature : Signature} {slots : List Slot} :
    Plan.takesSlots signature slots = true ↔ signature.Takes slots := by
  simp only [Plan.takesSlots, Bool.and_eq_true, Bool.not_eq_true', beq_iff_eq, List.all_eq_true]
  constructor
  · rintro ⟨⟨noReceiver, lengths⟩, each⟩
    refine ⟨noReceiver, List.forall₂_iff_zip.mpr ⟨lengths, fun member => ?_⟩⟩
    exact Input.takes_iff.mp (each _ member)
  · rintro ⟨noReceiver, takes⟩
    obtain ⟨lengths, each⟩ := List.forall₂_iff_zip.mp takes
    exact ⟨⟨noReceiver, lengths⟩, fun _ member => Input.takes_iff.mpr (each member)⟩

/-! ### What the scan finds -/

variable {item : StructItem} {items : List Item} {schema : Schema} {options : Options}
  {plan : Plan}

theorem isInherent_of_owns {impl_ : ImplItem} (own : Declaration.owns item impl_ = true) :
    impl_.isInherent item = true := by
  simp only [Declaration.owns, ImplItem.isInherent, Bool.and_eq_true] at own ⊢
  refine ⟨own.1, ?_⟩
  split
  · rename_i segments bare
    have last := own.2
    simp only [bare, Option.any_eq_true, beq_iff_eq] at last ⊢
    obtain ⟨segment, found, same⟩ := last
    exact ⟨segment, found, isSameIdentifier_of_eq same⟩
  · rename_i noPath
    have last := own.2
    split at last
    · rename_i bare
      exact absurd bare (noPath _ _)
    · cases last

theorem impls_ofItems :
    (Declaration.ofItems item items).impls = (implsIn items).filter (Declaration.owns item) := by
  rw [Declaration.ofItems, implsIn, List.filter_filterMap]
  refine List.filterMap_congr fun other _ => ?_
  cases other with
  | impl impl_ => simp [Option.filter]
  | _ => rfl

/-- The scan finds the first constructor that is noticed. -/
theorem constructorIn_eq :
    Schema.constructorIn (Declaration.ofItems item items).impls =
      ((writtenConstructors item items).find? (isNoticed item)).map Prod.snd := by
  have owned : (Declaration.ofItems item items).impls =
      ((implsIn items).filter fun impl_ => impl_.isInherent item).filter
        (Declaration.owns item) := by
    rw [impls_ofItems, List.filter_filter]
    refine List.filter_congr fun impl_ _ => ?_
    cases own : Declaration.owns item impl_ with
    | true => simp [isInherent_of_owns own]
    | false => simp
  have functions : (Declaration.ofItems item items).impls.flatMap Schema.functionsOf =
      ((writtenFunctions item items).filter fun written => Declaration.owns item written.1).map
        Prod.snd := by
    rw [owned, writtenFunctions]
    generalize (implsIn items).filter _ = impls
    induction impls with
    | nil => rfl
    | cons impl_ rest ih =>
        rw [List.flatMap_cons, List.filter_append, List.map_append, ← ih]
        cases own : Declaration.owns item impl_ with
        | true => simp [List.filter_map, Function.comp_def, own]
        | false => simp [List.filter_map, Function.comp_def, own]
  rw [Schema.constructorIn, functions, List.find?_map, List.find?_filter, writtenConstructors,
    List.find?_filter]
  refine congrArg _ (congrArg (List.find? · _) (funext fun written => ?_))
  cases named : written.2.name.text == "new" with
  | true => simp [isNoticed, named, isSameIdentifier_of_eq (beq_iff_eq.mp named)]
  | false => simp [isNoticed, named]

/-! ### What the plan makes of it -/

theorem constructor_of_extract {declaration : Declaration}
    (extracted : Schema.extract declaration = .ok (some schema)) :
    schema.constructor = Schema.constructorIn declaration.impls := by
  cases named : declaration.item.fields with
  | named fields trailing =>
      rw [Schema.extract_of_clean named (Schema.clean_of_extract extracted named)] at extracted
      split at extracted
      · cases extracted
      · obtain ⟨derives, -, own⟩ := map_eq_ok.mp extracted
        cases own
        rfl
  | positional fields trailing => simp [Schema.extract, named] at extracted
  | unit => simp [Schema.extract, named] at extracted

/-- A constructor is generated just if none is found; one that is found takes the slots. -/
theorem constructor_of_analyze (accepted : Plan.analyze schema options = .ok plan) :
    (schema.constructor = none → plan.constructor = .generate) ∧
      ∀ signature, schema.constructor = some signature →
        plan.constructor = .handWritten ∧ signature.Takes schema.slots := by
  unfold Plan.analyze at accepted
  split at accepted
  · obtain ⟨constructor, planned, own⟩ := bind_eq_ok.mp accepted
    cases own
    unfold Plan.constructorPlan at planned
    split at planned
    · rename_i missing
      cases planned
      exact ⟨fun _ => rfl, fun signature found => by simp [missing] at found⟩
    · rename_i signature found
      split at planned
      · rename_i takes
        cases planned
        refine ⟨fun missing => by simp [missing] at found, fun other found' => ⟨rfl, ?_⟩⟩
        rw [found, Option.some.injEq] at found'
        exact found' ▸ Signature.takes_iff.mp takes
      · cases planned
  · cases accepted

theorem isSameIdentifier_new_of_head? {name : String} (notRaw : name.toList.head? ≠ some 'r')
    (differ : name.toList.head? ≠ some 'n') : isSameIdentifier name "new" = false := by
  have unmarked : Slot.unmarked name.toList = name.toList := by
    unfold Slot.unmarked
    split
    · rename_i marked
      exact absurd (congrArg List.head? marked) notRaw
    · rfl
  rw [← Bool.not_eq_true, isSameIdentifier_iff, unmarked]
  intro same
  rw [same] at differ
  exact differ rfl

/-- The generated functions besides the constructor have other names than it, marked or not. -/
theorem isSameIdentifier_functionName {name : String} (member : name ∈ schema.functionNames) :
    isSameIdentifier name "new" = false := by
  simp only [Schema.functionNames, List.mem_append, List.mem_map, List.mem_flatMap, List.mem_cons,
    List.not_mem_nil, or_false] at member
  rcases member with ((⟨slot, -, rfl⟩ | ⟨slot, -, rfl | rfl⟩) | rfl | rfl | rfl | rfl)
  · refine isSameIdentifier_new_of_head? ?_ ?_ <;> simp [Slot.toList_method]
  · refine isSameIdentifier_new_of_head? ?_ ?_ <;> simp [Slot.toList_method]
  · refine isSameIdentifier_new_of_head? ?_ ?_ <;> simp [Slot.toList_method]
  all_goals decide

theorem generated_constructors (accepted : Plan.analyze schema options = .ok plan) :
    (schema.expansion plan).own.functions.filter (fun function =>
        isSameIdentifier function.name "new") =
      if plan.constructor = .generate then [schema.constructorFunction] else [] := by
  have names := Schema.names_ownFunctions accepted
  rw [Schema.ownFunctions_eq accepted] at names ⊢
  have others : (schema.factories ++ schema.accessors ++ schema.dispatch).map Function.name =
      schema.functionNames := by
    rw [List.map_append] at names
    refine List.append_cancel_left (Eq.trans ?_ names)
    split <;> rfl
  have none : (schema.factories ++ schema.accessors ++ schema.dispatch).filter (fun function =>
      isSameIdentifier function.name "new") = [] := by
    rw [List.filter_eq_nil_iff]
    intro function member
    have named : function.name ∈ schema.functionNames :=
      others ▸ List.mem_map_of_mem member
    simp [isSameIdentifier_functionName named]
  have named : isSameIdentifier schema.constructorFunction.name "new" = true :=
    isSameIdentifier_of_eq rfl
  rw [List.filter_append, none, List.append_nil]
  split
  · simp [named]
  · rfl

theorem constructorFunction_fits :
    Inherent.Fits schema.slots (.generated schema.constructorFunction) := by
  refine .generated rfl ?_
  rw [Schema.constructorFunction, List.forall₂_map_left_iff, List.forall₂_same]
  exact fun _ _ => rfl

theorem inherent_constructors (accepted : Plan.analyze schema options = .ok plan) :
    (inherentFunctions item items schema plan).filter Inherent.isConstructor =
      (writtenConstructors item items).map (fun written => .written written.2) ++
        if plan.constructor = .generate then [.generated schema.constructorFunction] else [] := by
  have generated : ((schema.expansion plan).own.functions.map Inherent.generated).filter
      Inherent.isConstructor =
        if plan.constructor = .generate then [.generated schema.constructorFunction] else [] := by
    rw [List.filter_map]
    refine (congrArg _ (generated_constructors accepted)).trans ?_
    split <;> rfl
  rw [inherentFunctions, List.filter_append, generated, List.filter_map]
  rfl

/-- With at most one constructor that is written, there is exactly one in all, and it fits, just if
the written one is noticed and has no dots. -/
theorem fits_iff_noticed
    (extracted : Schema.extract (.ofItems item items) = .ok (some schema))
    (accepted : Plan.analyze schema options = .ok plan)
    (single : (writtenConstructors item items).length ≤ 1) :
    (∃ constructor,
        (inherentFunctions item items schema plan).filter Inherent.isConstructor = [constructor] ∧
        constructor.Fits schema.slots) ↔
      ∀ written ∈ writtenConstructors item items,
        isNoticed item written = true ∧ written.2.variadic = [] := by
  obtain ⟨generates, keeps⟩ := constructor_of_analyze accepted
  rw [constructor_of_extract extracted, constructorIn_eq] at generates keeps
  rw [inherent_constructors accepted]
  cases constructors : writtenConstructors item items with
  | nil =>
      rw [constructors] at generates
      simp [generates rfl, constructorFunction_fits]
  | cons written rest =>
      obtain rfl : rest = [] := by simpa [constructors] using single
      rw [constructors] at generates keeps
      cases noticed : isNoticed item written with
      | true =>
          obtain ⟨planned, takes⟩ := keeps written.2 (by simp [noticed])
          simp only [planned, reduceCtorEq, if_false, List.map_cons, List.map_nil, List.append_nil,
            List.mem_singleton, forall_eq, noticed, true_and]
          constructor
          · rintro ⟨_, ⟨⟩, ⟨-, noDots⟩⟩
            exact noDots
          · exact fun noDots => ⟨_, rfl, .written takes noDots⟩
      | false => simp [generates (by simp [noticed]), noticed]

/-! ### Rejection -/

theorem analyze_of_other (options : Options) {signature : Signature}
    (found : schema.constructor = some signature) (other : ¬ signature.Takes schema.slots) :
    ∃ diagnostics, Plan.analyze schema options = .error diagnostics ∧
      (Plan.deriveConflicts options schema.derives = [] → diagnostics =
        [⟨.otherConstructor (schema.slots.map fun slot =>
          (slot.name.text, slot.payload.display)), signature.span⟩]) := by
  rw [← Signature.takes_iff, Bool.not_eq_true] at other
  cases conflicts : Plan.deriveConflicts options schema.derives with
  | nil =>
      refine ⟨_, ?_, fun _ => rfl⟩
      simp only [Plan.analyze, conflicts, Plan.constructorPlan, found, other, Bool.false_eq_true,
        if_false]
      rfl
  | cons first rest =>
      refine ⟨first :: rest, ?_, nofun⟩
      simp only [Plan.analyze, conflicts]

theorem expandBlock_of_other {block : List Token} {signature : Signature}
    (parsed : Source.items block = .ok items) (sole : soleStruct items = .ok item)
    (extracted : Schema.extract (.ofItems item items) = .ok (some schema))
    (found : schema.constructor = some signature) (other : ¬ signature.Takes schema.slots) :
    ∃ diagnostics, expandBlock block = .error (.rejected diagnostics) ∧
      ∀ options, blockOptions item = .ok options →
        Plan.deriveConflicts options schema.derives = [] → diagnostics =
          [⟨.otherConstructor (schema.slots.map fun slot =>
            (slot.name.text, slot.payload.display)), signature.span⟩] := by
  have expanded : expandBlock block = Attempt.checked (expandItems items) := by
    simp only [expandBlock, parsed]
    rfl
  have expandedItems : expandItems items = (blockOptions item).bind fun options =>
      (synthesize (.ofItems item items) options).map fun added =>
        items.flatMap Item.strippedTrees ++ added := by
    simp only [expandItems, sole]
    rfl
  rw [expanded, expandedItems]
  cases read : blockOptions item with
  | error diagnostics => exact ⟨diagnostics, rfl, nofun⟩
  | ok options =>
      obtain ⟨diagnostics, analyzed, exactly⟩ := analyze_of_other options found other
      refine ⟨diagnostics, ?_, ?_⟩
      · simp only [Except.bind, synthesize, extracted, analyzed]
        rfl
      · rintro _ ⟨⟩
        exact exactly

/-! ### Arbitration -/

/-- The factory of a slot calls the constructor with an argument for each slot: the payload in the
place of its own slot, and nothing for all others. -/
def CallsConstructor (schema : Schema) (plan : Plan) (slot : Slot) (index : Nat) : Prop :=
  ∃ arguments, schema.factory slot index ∈ (schema.expansion plan).own.functions ∧
    (schema.factory slot index).body = callOf (Tree.words "Self :: new") arguments ∧
    arguments.length = schema.slots.length ∧
    ∀ other < schema.slots.length,
      arguments[other]? = some (if other = index then presentOf "payload" else absent)

theorem callsConstructor (accepted : Plan.analyze schema options = .ok plan) {slot : Slot}
    {index : Nat} (found : schema.slots[index]? = some slot) :
    CallsConstructor schema plan slot index := by
  refine ⟨schema.soleArguments index, Schema.factory_mem accepted found, rfl, ?_, ?_⟩
  · simp [Schema.soleArguments]
  · intro other inside
    simp [Schema.soleArguments, inside]

/-- A block next to whose structure at most one constructor is written. If it is accepted, the
structure has exactly one constructor, and this takes what the factories hand to it, just if the one
that is written is noticed and has no dots. It is rejected if the one that is written is noticed and
takes anything else. -/
theorem constructor_arbitrated {block : List Token} (parsed : Source.items block = .ok items)
    (sole : soleStruct items = .ok item)
    (extracted : Schema.extract (.ofItems item items) = .ok (some schema))
    (single : (writtenConstructors item items).length ≤ 1) :
    (∀ output, expandBlock block = .ok output →
      ∃ options plan, Plan.analyze schema options = .ok plan ∧
        output = items.flatMap Item.strippedTrees ++ (schema.expansion plan).trees ∧
        (∀ index slot, schema.slots[index]? = some slot →
          CallsConstructor schema plan slot index) ∧
        ((∃ constructor,
            (inherentFunctions item items schema plan).filter Inherent.isConstructor =
              [constructor] ∧
            constructor.Fits schema.slots) ↔
          ∀ written ∈ writtenConstructors item items,
            isNoticed item written = true ∧ written.2.variadic = [])) ∧
    ∀ written ∈ writtenConstructors item items, isNoticed item written = true →
      ¬ written.2.Takes schema.slots →
        ∃ diagnostics, expandBlock block = .error (.rejected diagnostics) ∧
          ∀ options, blockOptions item = .ok options →
            Plan.deriveConflicts options schema.derives = [] → diagnostics =
              [⟨.otherConstructor (schema.slots.map fun slot =>
                (slot.name.text, slot.payload.display)), written.2.span⟩] := by
  constructor
  · intro output accepted
    obtain ⟨items', parsed', expanded⟩ := expandBlock_ok accepted
    obtain rfl := Except.ok.inj (parsed.symm.trans parsed')
    obtain ⟨item', options, added, sole', -, synthesized, printed⟩ := expandItems_ok expanded
    obtain rfl := Except.ok.inj (sole.symm.trans sole')
    cases analyzed : Plan.analyze schema options with
    | error diagnostics => simp [synthesize, extracted, analyzed] at synthesized
    | ok plan =>
        obtain rfl : (schema.expansion plan).trees = added := by
          simpa [synthesize, extracted, analyzed] using synthesized
        exact ⟨options, plan, analyzed, printed, fun _ _ => callsConstructor analyzed,
          fits_iff_noticed extracted analyzed single⟩
  · intro written member noticed other
    refine expandBlock_of_other parsed sole extracted ?_ other
    obtain ⟨first, found⟩ := List.length_eq_one_iff.mp
      (Nat.le_antisymm single (List.length_pos_of_mem member))
    rw [found, List.mem_singleton] at member
    rw [constructor_of_extract extracted, constructorIn_eq, found, ← member]
    simp [noticed]

/-- The parts of a block that is read as far as its schema. -/
def readBlock (text : String) : Option (List Token × List Item × StructItem × Schema) := do
  let block ← (Attempt.lexed text).toOption
  let items ← (Source.items block).toOption
  let item ← (soleStruct items).toOption
  let schema ← (Schema.extract (.ofItems item items)).toOption.join
  return (block, items, item, schema)

theorem readBlock_eq_some {text : String} {block : List Token}
    (read : readBlock text = some (block, items, item, schema)) :
    Attempt.lexed text = .ok block ∧ Source.items block = .ok items ∧
      soleStruct items = .ok item ∧
      Schema.extract (.ofItems item items) = .ok (some schema) := by
  simp only [readBlock, Option.bind_eq_bind, Option.bind_eq_some_iff, Option.pure_def,
    toOption_eq_some, Option.join_eq_some_iff, Option.some.injEq] at read
  obtain ⟨block, lexed, items, parsed, item, sole, schema, extracted, same⟩ := read
  cases same
  exact ⟨lexed, parsed, sole, extracted⟩

/-- Of each constructor that is written in a block its name, whether it is noticed, whether it takes
the slots, and whether it has no dots; and the names of all constructors if the block is accepted. -/
def surveyed (text : String) :
    Option (List (String × Bool × Bool × Bool) × Option (List String)) := do
  let (block, items, item, schema) ← readBlock text
  let written := (writtenConstructors item items).map fun written =>
    (written.2.name.text, isNoticed item written, Plan.takesSlots written.2 schema.slots,
      written.2.variadic.isEmpty)
  let all := do
    let _ ← (expandBlock block).toOption
    let options ← (blockOptions item).toOption
    let plan ← (Plan.analyze schema options).toOption
    return ((inherentFunctions item items schema plan).filter Inherent.isConstructor).map
      Inherent.name
  return (written, all)

/-- A structure with a constructor next to it. -/
def besides (owner constructor : String) : String :=
  "struct " ++ owner ++ " \x7b x: Option<u8> \x7d impl S \x7b " ++ constructor ++
    " -> Self \x7b todo!() \x7d \x7d"

/-- What is complained about when a block is rejected. -/
def complaints (text : String) : List String :=
  match expandBlockText text with
  | .error (.rejected diagnostics) => diagnostics.map Diagnostic.message
  | _ => []

theorem constructor_arbitrated_written :
    (∃ block items item schema options plan,
      readBlock (besides "S" "fn new(x: Option<(u8)>)") = some (block, items, item, schema) ∧
      Plan.analyze schema options = .ok plan ∧
      ∃ constructor,
        (inherentFunctions item items schema plan).filter Inherent.isConstructor =
          [constructor] ∧
        constructor.Fits schema.slots) ∧
    ∃ block items item schema diagnostics,
      readBlock (besides "S" "fn new(y: u8)") = some (block, items, item, schema) ∧
      expandBlock block = .error (.rejected diagnostics) := by
  have kept : surveyed (besides "S" "fn new(x: Option<(u8)>)") =
      some ([("new", true, true, true)], some ["new"]) := by
    decide +kernel
  have rejected : surveyed (besides "S" "fn new(y: u8)") =
      some ([("new", true, false, true)], none) := by
    decide +kernel
  simp only [surveyed, Option.bind_eq_bind, Option.bind_eq_some_iff, Option.pure_def,
    Option.some.injEq, Prod.mk.injEq, toOption_eq_some, Prod.exists] at kept rejected
  constructor
  · obtain ⟨block, items, item, schema, read, written, output, accepted, -⟩ := kept
    obtain ⟨-, parsed, sole, extracted⟩ := readBlock_eq_some read
    obtain ⟨own, found, facts⟩ := List.map_eq_singleton_iff.mp written
    simp only [Prod.mk.injEq, List.isEmpty_iff] at facts
    obtain ⟨-, noticed, -, noDots⟩ := facts
    obtain ⟨options, plan, analyzed, -, -, fits⟩ :=
      (constructor_arbitrated parsed sole extracted (by simp [found])).1 output accepted
    refine ⟨block, items, item, schema, options, plan, read, analyzed, fits.mpr ?_⟩
    simp [found, noticed, noDots]
  · obtain ⟨block, items, item, schema, read, written, -⟩ := rejected
    obtain ⟨-, parsed, sole, extracted⟩ := readBlock_eq_some read
    obtain ⟨own, found, facts⟩ := List.map_eq_singleton_iff.mp written
    simp only [Prod.mk.injEq] at facts
    obtain ⟨-, noticed, takes, -⟩ := facts
    obtain ⟨diagnostics, refused, -⟩ :=
      (constructor_arbitrated parsed sole extracted (by simp [found])).2 own (by simp [found])
        noticed (by simp [← Signature.takes_iff, takes])
    exact ⟨block, items, item, schema, diagnostics, read, refused⟩

/-- The mark of a raw name on the constructor or on the structure hides a constructor that would
otherwise be rejected, and a second one is generated. Dots hide nothing, but are let through. -/
theorem constructor_arbitrated_marked :
    complaints (besides "S" "fn new(y: u8)") =
      [ "`new` is used by the generated factories and must have the signature " ++
          "`fn new(x: Option<u8>)`" ] ∧
    surveyed (besides "S" "fn r#new(y: u8)") =
      some ([("r#new", false, false, true)], some ["r#new", "new"]) ∧
    surveyed (besides "r#S" "fn new(y: u8)") =
      some ([("new", false, false, true)], some ["new", "new"]) ∧
    surveyed (besides "S" "extern \"C\" fn new(x: Option<u8>, ...)") =
      some ([("new", true, true, false)], some ["new"]) := by
  refine ⟨?_, ?_, ?_, ?_⟩
  all_goals decide +kernel

end SlotSum
