import SlotSum.Proofs.Result
import SlotSum.Schema.Basic

/-!
Reading the fields of a structure. Each named field is a slot, another field or a faulty one, and
the fields of each kind are kept in the order of declaration. Faults of fields and repeated stems
are reported together and before anything else; otherwise there is a schema unless there is no slot,
or a list of derives cannot be read.
-/

namespace SlotSum

/-! ### Optional types -/

/-- A type that is optional with a given payload: the optional type itself, by its name alone or by
its path in one of the two libraries, with this payload as its only argument. -/
inductive Ty.IsOptional (payload : Ty) : Ty → Prop
  | group (inner : Ty.IsOptional payload type) : Ty.IsOptional payload (.group type)
  | paren (inner : Ty.IsOptional payload type) : Ty.IsOptional payload (.paren type)
  | plain : Ty.IsOptional payload
      (.path false [.mk "Option" (.angle turbofish [.type payload] trailing)])
  | qualified (library : root = "std" ∨ root = "core") : Ty.IsOptional payload
      (.path rooted [.mk root .none, .mk "option" .none,
        .mk "Option" (.angle turbofish [.type payload] trailing)])

theorem Ty.soleArgument?_eq_some_iff {arguments : Arguments} {payload : Ty} :
    Ty.soleArgument? arguments = some payload ↔
      ∃ turbofish trailing, arguments = .angle turbofish [.type payload] trailing := by
  constructor
  · intro sole
    unfold Ty.soleArgument? at sole
    split at sole
    · cases sole
      exact ⟨_, _, rfl⟩
    · cases sole
  · rintro ⟨turbofish, trailing, rfl⟩
    rfl

theorem Segment.eq_mk_none {segment : Segment} {name : String} (own : segment.name = name)
    (bare : segment.arguments.isNone = true) : segment = .mk name .none := by
  obtain ⟨name', arguments⟩ := segment
  cases arguments with
  | none => exact congrArg (Segment.mk · .none) own
  | _ => cases bare

theorem Ty.isOptionalPath_iff {rooted : Bool} {before : List Segment} :
    Ty.isOptionalPath rooted before = true ↔
      (before = [] ∧ rooted = false) ∨
        ∃ root, (root = "std" ∨ root = "core") ∧
          before = [.mk root .none, .mk "option" .none] := by
  constructor
  · intro known
    rw [Ty.isOptionalPath, Bool.and_eq_true] at known
    obtain ⟨bare, names⟩ := known
    match before with
    | [] => exact .inl ⟨rfl, by simpa using names⟩
    | [root] => simp at names
    | [root, inner] =>
        simp only [List.all_cons, List.all_nil, Bool.and_true, Bool.and_eq_true] at bare
        simp only [List.map_cons, List.map_nil, Bool.or_eq_true, beq_iff_eq, List.cons.injEq,
          and_true] at names
        rcases names with ⟨library, option⟩ | ⟨library, option⟩
        · exact .inr ⟨"std", .inl rfl,
            by rw [root.eq_mk_none library bare.1, inner.eq_mk_none option bare.2]⟩
        · exact .inr ⟨"core", .inr rfl,
            by rw [root.eq_mk_none library bare.1, inner.eq_mk_none option bare.2]⟩
    | root :: inner :: next :: rest => simp at names
  · rintro (⟨rfl, rfl⟩ | ⟨root, rfl | rfl, rfl⟩)
    · rfl
    · rfl
    · rfl

theorem Ty.payload?_path_iff {rooted : Bool} {segments : List Segment} {payload : Ty} :
    (Ty.path rooted segments).payload? = some payload ↔
      Ty.IsOptional payload (.path rooted segments) := by
  constructor
  · intro found
    simp only [Ty.payload?, Ty.bare] at found
    split at found
    · rename_i last ends
      split at found
      · rename_i known
        simp only [Bool.and_eq_true, beq_iff_eq] at known
        obtain ⟨named, path⟩ := known
        obtain ⟨turbofish, trailing, sole⟩ := Ty.soleArgument?_eq_some_iff.mp found
        obtain ⟨name, arguments⟩ := last
        cases named
        cases sole
        obtain ⟨before, rfl⟩ := List.getLast?_eq_some_iff.mp ends
        rw [List.dropLast_concat] at path
        rcases Ty.isOptionalPath_iff.mp path with ⟨rfl, rfl⟩ | ⟨root, library, rfl⟩
        · exact .plain
        · exact .qualified library
      · cases found
    · cases found
  · intro optional
    cases optional with
    | plain => rfl
    | qualified library => rcases library with rfl | rfl <;> rfl

/-- The payload of a type is found just if the type is optional with this payload. -/
theorem Ty.payload?_eq_some_iff {payload : Ty} (type : Ty) :
    type.payload? = some payload ↔ Ty.IsOptional payload type := by
  cases type with
  | group inner =>
      have inside : (Ty.group inner).payload? = inner.payload? := rfl
      rw [inside, Ty.payload?_eq_some_iff inner]
      refine ⟨.group, fun optional => ?_⟩
      cases optional with
      | group inside => exact inside
  | paren inner =>
      have inside : (Ty.paren inner).payload? = inner.payload? := rfl
      rw [inside, Ty.payload?_eq_some_iff inner]
      refine ⟨.paren, fun optional => ?_⟩
      cases optional with
      | paren inside => exact inside
  | path => exact Ty.payload?_path_iff
  | _ =>
      constructor
      · intro found
        cases found
      · intro optional
        cases optional
termination_by sizeOf type

/-! ### The options of a field -/

theorem AttributeHead.sole_of_readArguments {head : AttributeHead} {production : Parse α}
    {diagnostics : List Diagnostic}
    (rejected : head.readArguments production = .error diagnostics) :
    ∃ diagnostic, diagnostics = [diagnostic] := by
  unfold AttributeHead.readArguments at rejected
  split at rejected
  · cases rejected
    exact ⟨_, rfl⟩
  · cases rejected
    exact ⟨_, rfl⟩
  · split at rejected
    · cases rejected
    · cases rejected
      exact ⟨_, rfl⟩

/-- The options of a field have at most one fault. -/
theorem sole_of_skipsFrom {seen : Bool} {heads : List AttributeHead}
    {diagnostics : List Diagnostic} (rejected : skipsFrom seen heads = .error diagnostics) :
    ∃ diagnostic, diagnostics = [diagnostic] := by
  induction heads generalizing seen with
  | nil => cases rejected
  | cons head rest ih =>
      rw [skipsFrom] at rejected
      split at rejected
      · rename_i own
        cases rejected
        exact head.sole_of_readArguments own
      · exact ih rejected
      · split at rejected
        · cases rejected
          exact ⟨_, rfl⟩
        · exact ih rejected

theorem skipsFrom_true {heads : List AttributeHead} {skipped : Bool}
    (read : skipsFrom true heads = .ok skipped) : skipped = true := by
  induction heads with
  | nil => exact (Except.ok.inj read).symm
  | cons head rest ih =>
      rw [skipsFrom] at read
      split at read
      · cases read
      · exact ih read
      · cases read

/-- A field is not opted out if all its option attributes are read as empty lists. -/
theorem skipsFrom_eq_false_iff {heads : List AttributeHead} :
    skipsFrom false heads = .ok false ↔
      ∀ head ∈ heads, head.readArguments (optionWords ["skip"]) = .ok [] := by
  induction heads with
  | nil => simp [skipsFrom]
  | cons head rest ih =>
      rw [skipsFrom, List.forall_mem_cons]
      split
      · rename_i own
        simp [own]
      · rename_i own
        simp [own, ih]
      · rename_i own
        simp only [own, Except.ok.injEq, reduceCtorEq, false_and, iff_false, Bool.false_eq_true,
          if_false]
        intro read
        exact absurd (skipsFrom_true read) Bool.false_ne_true

/-! ### Fields -/

/-- A private field of an optional type that no option opts out. -/
def Field.IsSlot (field : Field) (payload : Ty) : Prop :=
  field.visibility = .inherited ∧ Ty.IsOptional payload field.type ∧
    ∀ head ∈ attributesNamed optionName field.attributes,
      head.readArguments (optionWords ["skip"]) = .ok []

/-- Each named field is a slot, another field, or faulty with one fault. The three kinds are kept
apart, each in the order of the fields. -/
inductive Sorts : List Field → List Slot → List Name → List Diagnostic → Prop
  | nil : Sorts [] [] [] []
  | unnamed (nameless : field.name = none) (rest : Sorts fields slots others faults) :
      Sorts (field :: fields) slots others faults
  | slot (named : field.name = some name) (isSlot : field.IsSlot payload)
      (rest : Sorts fields slots others faults) :
      Sorts (field :: fields) (⟨name, payload⟩ :: slots) others faults
  | other (named : field.name = some name) (read : skips field.attributes = .ok skipped)
      (noSlot : ∀ payload, ¬ field.IsSlot payload) (rest : Sorts fields slots others faults) :
      Sorts (field :: fields) slots (name :: others) faults
  | faulty (named : field.name = some name) (unread : skips field.attributes = .error [fault])
      (rest : Sorts fields slots others faults) :
      Sorts (field :: fields) slots others (fault :: faults)

namespace Schema

theorem isInherited_iff {visibility : Visibility} :
    visibility.isInherited = true ↔ visibility = .inherited := by
  cases visibility <;> simp [Visibility.isInherited]

theorem isSlot_iff {field : Field} {payload : Ty} :
    field.IsSlot payload ↔ field.visibility.isInherited = true ∧
      field.type.payload? = some payload ∧ skips field.attributes = .ok false := by
  rw [Field.IsSlot, isInherited_iff, Ty.payload?_eq_some_iff, skips, skipsFrom_eq_false_iff]

/-- The role of a field, one case for each kind of field. -/
theorem roleOf_cases (field : Field) (name : Name) :
    (∃ payload, field.IsSlot payload ∧ roleOf field name = .slot ⟨name, payload⟩) ∨
    ((∃ skipped, skips field.attributes = .ok skipped) ∧ (∀ payload, ¬ field.IsSlot payload) ∧
      roleOf field name = .other name) ∨
    ∃ fault, skips field.attributes = .error [fault] ∧ roleOf field name = .faulty [fault] := by
  simp only [isSlot_iff, roleOf]
  cases read : skips field.attributes with
  | error diagnostics =>
      obtain ⟨fault, rfl⟩ := sole_of_skipsFrom read
      exact .inr (.inr ⟨fault, rfl, rfl⟩)
  | ok skipped =>
      cases optional : field.type.payload? with
      | none => exact .inr (.inl ⟨⟨skipped, rfl⟩, by simp, rfl⟩)
      | some payload =>
          cases inherited : field.visibility.isInherited with
          | false => exact .inr (.inl ⟨⟨skipped, rfl⟩, by simp, rfl⟩)
          | true =>
              cases skipped with
              | false => exact .inl ⟨payload, ⟨rfl, rfl, rfl⟩, rfl⟩
              | true => exact .inr (.inl ⟨⟨true, rfl⟩, by simp, rfl⟩)

theorem sorts_roles (fields : List Field) :
    Sorts fields (slotsOf (roles fields)) (othersOf (roles fields)) (faultsOf (roles fields)) := by
  induction fields with
  | nil => exact .nil
  | cons field rest ih =>
      cases named : field.name with
      | none =>
          have passed : roles (field :: rest) = roles rest := by simp [roles, named]
          rw [passed]
          exact .unnamed named ih
      | some name =>
          have kept : roles (field :: rest) = roleOf field name :: roles rest := by
            simp [roles, named]
          rw [kept]
          rcases roleOf_cases field name with
            ⟨payload, isSlot, role⟩ | ⟨⟨skipped, read⟩, noSlot, role⟩ | ⟨fault, unread, role⟩
          · rw [role]
            exact .slot named isSlot ih
          · rw [role]
            exact .other named read noSlot ih
          · rw [role]
            exact .faulty named unread ih

/-- There is only one way to sort fields. -/
theorem sorts_unique {fields : List Field} {slots slots' : List Slot} {others others' : List Name}
    {faults faults' : List Diagnostic} (sorted : Sorts fields slots others faults)
    (sorted' : Sorts fields slots' others' faults') :
    slots = slots' ∧ others = others' ∧ faults = faults' := by
  induction sorted generalizing slots' others' faults' with
  | nil =>
      cases sorted'
      exact ⟨rfl, rfl, rfl⟩
  | unnamed nameless rest ih =>
      cases sorted' with
      | unnamed _ rest' => exact ih rest'
      | slot named | other named | faulty named => cases nameless.symm.trans named
  | slot named isSlot rest ih =>
      cases sorted' with
      | unnamed nameless => cases nameless.symm.trans named
      | slot named' isSlot' rest' =>
          obtain ⟨rfl, rfl, rfl⟩ := ih rest'
          cases named.symm.trans named'
          cases (isSlot_iff.mp isSlot).2.1.symm.trans (isSlot_iff.mp isSlot').2.1
          exact ⟨rfl, rfl, rfl⟩
      | other _ _ noSlot => exact absurd isSlot (noSlot _)
      | faulty _ unread => cases (isSlot_iff.mp isSlot).2.2.symm.trans unread
  | other named read noSlot rest ih =>
      cases sorted' with
      | unnamed nameless => cases nameless.symm.trans named
      | slot _ isSlot => exact absurd isSlot (noSlot _)
      | other named' _ _ rest' =>
          obtain ⟨rfl, rfl, rfl⟩ := ih rest'
          cases named.symm.trans named'
          exact ⟨rfl, rfl, rfl⟩
      | faulty _ unread => cases read.symm.trans unread
  | faulty named unread rest ih =>
      cases sorted' with
      | unnamed nameless => cases nameless.symm.trans named
      | slot _ isSlot => cases (isSlot_iff.mp isSlot).2.2.symm.trans unread
      | other _ read => cases read.symm.trans unread
      | faulty _ unread' rest' =>
          obtain ⟨rfl, rfl, rfl⟩ := ih rest'
          cases unread.symm.trans unread'
          exact ⟨rfl, rfl, rfl⟩

/-! ### Repeated stems -/

/-- The report of a slot whose stem some earlier slot has. It names the first of these. -/
def repeatOf (before : List Slot) (slot : Slot) : Option Diagnostic :=
  (before.find? fun other => other.stem == slot.stem).map fun first =>
    ⟨.sameStem slot.name.text first.name.text slot.stem, slot.name.span⟩

/-- The reports of all slots whose stems are not new. -/
def repeats (slots : List Slot) : List Diagnostic :=
  slots.zipIdx.filterMap fun (slot, place) => repeatOf (slots.take place) slot

/-- Of the slots before, only the first one of each stem has to be remembered. -/
theorem clashesFrom_eq {earlier before slots : List Slot}
    (firsts : ∀ stem : String, (earlier.find? fun other => other.stem == stem) =
      before.find? fun other => other.stem == stem) :
    clashesFrom earlier slots =
      slots.zipIdx.filterMap fun (slot, place) => repeatOf (before ++ slots.take place) slot := by
  induction slots generalizing earlier before with
  | nil => rfl
  | cons slot rest ih =>
      have later {earlier' : List Slot}
          (firsts' : ∀ stem : String, (earlier'.find? fun other => other.stem == stem) =
            (before ++ [slot]).find? fun other => other.stem == stem) :
          clashesFrom earlier' rest = rest.zipIdx.filterMap fun (next, place) =>
            repeatOf (before ++ (slot :: rest).take (place + 1)) next := by
        simpa only [List.append_assoc, List.singleton_append, ← List.take_succ_cons]
          using ih firsts'
      rw [List.zipIdx_cons', List.filterMap_cons, List.filterMap_map]
      simp only [List.take_zero, List.append_nil]
      rw [clashesFrom, repeatOf, ← firsts]
      cases found : earlier.find? fun other => other.stem == slot.stem with
      | some first =>
          refine congrArg _ (later fun stem => ?_)
          rw [List.find?_append]
          by_cases same : slot.stem = stem
          · rw [← same, ← firsts, found]
            rfl
          · rw [firsts]
            simp [same]
      | none =>
          refine later fun stem => ?_
          rw [List.find?_append, List.find?_append, firsts]

theorem clashes_eq (slots : List Slot) : clashes slots = repeats slots := by
  have firsts (stem : String) : (([] : List Slot).find? fun other => other.stem == stem) =
      ([] : List Slot).find? fun other => other.stem == stem := rfl
  rw [clashes, clashesFrom_eq firsts]
  simp only [List.nil_append, repeats]

theorem repeats_eq_nil_iff {slots : List Slot} :
    repeats slots = [] ↔ (slots.map Slot.stem).Nodup := by
  rw [List.Nodup, List.pairwise_map, List.pairwise_iff_getElem, repeats,
    List.filterMap_eq_nil_iff]
  constructor
  · intro none i j inside inside' before same
    have fresh := none (slots[j], j) (List.mem_zipIdx_iff_getElem?.mpr (by simp))
    simp only [repeatOf, Option.map_eq_none_iff, List.find?_eq_none] at fresh
    refine fresh slots[i] ?_ (by simpa using same)
    exact List.mem_take_iff_getElem.mpr ⟨i, by omega, rfl⟩
  · rintro apart ⟨slot, place⟩ member
    have found : slots[place]? = some slot := List.mem_zipIdx_iff_getElem?.mp member
    obtain ⟨inside, rfl⟩ := List.getElem?_eq_some_iff.mp found
    simp only [repeatOf, Option.map_eq_none_iff, List.find?_eq_none]
    intro other taken
    obtain ⟨i, bound, rfl⟩ := List.mem_take_iff_getElem.mp taken
    simpa using apart i place (by omega) inside (by omega)

/-! ### Extraction -/

theorem derivedPaths_isOk_iff {attributes : List Node} :
    (∃ derives, derivedPaths attributes = .ok derives) ↔
      ∀ head ∈ attributesNamed "derive" attributes, ∃ derives, derivedOf head = .ok derives := by
  rw [← mapM_isOk_iff]
  constructor
  · rintro ⟨derives, read⟩
    obtain ⟨lists, own, -⟩ := bind_eq_ok.mp read
    exact ⟨lists, own⟩
  · rintro ⟨lists, own⟩
    exact ⟨lists.flatten, bind_eq_ok.mpr ⟨lists, own, rfl⟩⟩

section

variable {declaration : Declaration} {fields : List Field} {trailing : Bool}

/-- Faults and repeated stems are all that is reported as long as there are any. -/
theorem extract_of_faults (named : declaration.item.fields = .named fields trailing)
    (some_ : faultsOf (roles fields) ++ repeats (slotsOf (roles fields)) ≠ []) :
    extract declaration =
      .error (faultsOf (roles fields) ++ repeats (slotsOf (roles fields))) := by
  simp only [extract, named, clashes_eq]

theorem clean_of_extract {result : Option Schema} (extracted : extract declaration = .ok result)
    (named : declaration.item.fields = .named fields trailing) :
    faultsOf (roles fields) ++ repeats (slotsOf (roles fields)) = [] := by
  refine Classical.byContradiction fun faulty => ?_
  rw [extract_of_faults named faulty] at extracted
  cases extracted

theorem extract_of_clean (named : declaration.item.fields = .named fields trailing)
    (clean : faultsOf (roles fields) ++ repeats (slotsOf (roles fields)) = []) :
    extract declaration =
      if (slotsOf (roles fields)).isEmpty then .ok none
      else (derivedPaths declaration.item.attributes).map fun derives =>
        some
          { owner := declaration.item.name, visibility := declaration.item.visibility
            generics := declaration.item.generics, slots := slotsOf (roles fields)
            others := othersOf (roles fields), derives
            constructor := constructorIn declaration.impls } := by
  simp only [extract, named, clashes_eq, clean]
  cases derivedPaths declaration.item.attributes <;> rfl

/-- The fields of a structure are sorted into slots, other fields and faults. If there are no faults
and no two slots have one stem, then there is no schema just if there are no slots; otherwise there
is one, with these slots and other fields, unless a list of derives cannot be read. In all other
cases the faults are reported, and behind them the slots whose stems earlier slots have. -/
theorem extract_sorts (named : declaration.item.fields = .named fields trailing) :
    (∃ slots others faults, Sorts fields slots others faults) ∧
      ∀ slots others faults, Sorts fields slots others faults →
        (faults = [] → (slots.map Slot.stem).Nodup →
          (extract declaration = .ok none ↔ slots = []) ∧
          (slots ≠ [] →
            (∀ head ∈ attributesNamed "derive" declaration.item.attributes,
              ∃ derives, derivedOf head = .ok derives) →
            ∃ schema, extract declaration = .ok (some schema) ∧
              schema.slots = slots ∧ schema.others = others) ∧
          (slots ≠ [] →
            (∃ head ∈ attributesNamed "derive" declaration.item.attributes,
              ∀ derives, derivedOf head ≠ .ok derives) →
            ∃ diagnostics, extract declaration = .error diagnostics)) ∧
        (faults ≠ [] ∨ ¬ (slots.map Slot.stem).Nodup →
          extract declaration = .error (faults ++ repeats slots)) := by
  refine ⟨⟨_, _, _, sorts_roles fields⟩, fun slots others faults sorted => ?_⟩
  obtain ⟨rfl, rfl, rfl⟩ := sorts_unique sorted (sorts_roles fields)
  refine ⟨fun noFaults distinct => ?_, fun faulty => ?_⟩
  · have clean : faultsOf (roles fields) ++ repeats (slotsOf (roles fields)) = [] := by
      rw [noFaults, repeats_eq_nil_iff.mpr distinct, List.append_nil]
    rw [extract_of_clean named clean]
    cases slots : slotsOf (roles fields) with
    | nil => exact ⟨by simp, by simp, by simp⟩
    | cons first rest =>
        simp only [List.isEmpty_cons, Bool.false_eq_true, if_false]
        refine ⟨?_, fun _ wellFormed => ?_, fun _ malformed => ?_⟩
        · simp [map_eq_ok]
        · obtain ⟨derives, read⟩ := derivedPaths_isOk_iff.mpr wellFormed
          rw [read]
          exact ⟨_, rfl, rfl, rfl⟩
        · obtain ⟨head, member, unread⟩ := malformed
          cases read : derivedPaths declaration.item.attributes with
          | error diagnostics => exact ⟨diagnostics, rfl⟩
          | ok derives =>
              obtain ⟨own, found⟩ := derivedPaths_isOk_iff.mp ⟨derives, read⟩ head member
              exact absurd found (unread own)
  · refine extract_of_faults named fun clean => ?_
    obtain ⟨noFaults, noRepeats⟩ := List.append_eq_nil_iff.mp clean
    rcases faulty with faults | repeated
    · exact faults noFaults
    · exact repeated (repeats_eq_nil_iff.mp noRepeats)

end

/-- A structure with private optional fields of given names and attributes, and one that is not
private. -/
def record (named : List (String × List Node)) : StructItem :=
  let optional : Ty := .path true
    [.mk "core" .none, .mk "option" .none,
      .mk "Option" (.angle false [.type (.path false [.mk "u8" .none])] true)]
  let fields := named.map fun (name, attributes) =>
    ⟨attributes, .inherited, some ⟨name, .callSite⟩, .paren optional⟩
  { attributes := [], visibility := .inherited, name := ⟨"Record", .callSite⟩, generics := .empty
    fields := .named (fields ++ [⟨[], .pub, some ⟨"shown", .callSite⟩, optional⟩]) false }

/-- An option attribute without arguments, which no field may have. -/
def bareOption : Node :=
  .attribute ⟨false, false, [⟨optionName, .callSite⟩], .absent, .callSite, .callSite⟩ []

theorem extract_sorts_record :
    let accepted := record [("_a", []), ("b", [])]
    let rejected := record [("_a", []), ("b", [bareOption]), ("a", [])]
    (∃ fields slots others, accepted.fields = .named fields false ∧ Sorts fields slots others [] ∧
      (slots.map fun slot => slot.name.text) = ["_a", "b"] ∧
      others.map Name.text = ["shown"]) ∧
    ∃ fields slots others faults, rejected.fields = .named fields false ∧
      Sorts fields slots others faults ∧ faults ++ repeats slots =
        [⟨.bareAttribute optionName, .callSite⟩, ⟨.sameStem "a" "_a" "a", .callSite⟩] := by
  intro accepted rejected
  have underived : ∀ head ∈ attributesNamed "derive" [],
      ∃ derives, derivedOf head = .ok derives := by simp [attributesNamed]
  have names : (extract (.ofStruct accepted)).toOption.join.map (fun schema =>
      (schema.slots.map fun slot => slot.name.text, schema.others.map Name.text)) =
        some (["_a", "b"], ["shown"]) := by decide +kernel
  have reported : (match extract (.ofStruct rejected) with
      | .error diagnostics => diagnostics
      | .ok _ => []) =
        [⟨.bareAttribute optionName, .callSite⟩, ⟨.sameStem "a" "_a" "a", .callSite⟩] := by
    decide +kernel
  have named (item : StructItem) {fields : List Field} (own : item.fields = .named fields false) :
      (Declaration.ofStruct item).item.fields = .named fields false := own
  constructor
  · obtain ⟨⟨slots, others, faults, sorted⟩, results⟩ := extract_sorts (named accepted rfl)
    obtain ⟨clean, faulty⟩ := results slots others faults sorted
    by_cases problem : faults ≠ [] ∨ ¬ (slots.map Slot.stem).Nodup
    · rw [faulty problem] at names
      cases names
    · obtain ⟨noFaults, distinct⟩ := not_or.mp problem
      obtain rfl := Decidable.not_not.mp noFaults
      obtain ⟨none_iff, found, -⟩ := clean rfl (Decidable.not_not.mp distinct)
      have some_ : slots ≠ [] := fun empty => by
        rw [none_iff.mpr empty] at names
        cases names
      obtain ⟨schema, extracted, rfl, rfl⟩ := found some_ underived
      rw [extracted] at names
      simp only [Except.toOption, Option.join_some, Option.map_some, Option.some.injEq,
        Prod.mk.injEq] at names
      exact ⟨_, _, _, rfl, sorted, names⟩
  · obtain ⟨⟨slots, others, faults, sorted⟩, results⟩ := extract_sorts (named rejected rfl)
    obtain ⟨clean, faulty⟩ := results slots others faults sorted
    refine ⟨_, slots, others, faults, rfl, sorted, ?_⟩
    by_cases problem : faults ≠ [] ∨ ¬ (slots.map Slot.stem).Nodup
    · rwa [faulty problem] at reported
    · obtain ⟨noFaults, distinct⟩ := not_or.mp problem
      obtain rfl := Decidable.not_not.mp noFaults
      obtain ⟨none_iff, found, -⟩ := clean rfl (Decidable.not_not.mp distinct)
      by_cases empty : slots = []
      · rw [none_iff.mpr empty] at reported
        cases reported
      · obtain ⟨schema, extracted, -⟩ := found empty underived
        rw [extracted] at reported
        cases reported

end Schema

end SlotSum
