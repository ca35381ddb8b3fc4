import SlotSum.Expand
import SlotSum.Proofs.Schema.Extraction
import SlotSum.Proofs.Source.Shrink

/-!
Option attributes that are read, and those that are only removed. An expansion next to which options
stand reads the attributes of named fields; those on the structure itself and on positional fields
are dropped whatever they hold, so nothing depends on them.
-/

namespace SlotSum

/-! ### Stripping of terms in a row -/

theorem Node.stripAll_eq_map (nodes : List Node) : Node.stripAll nodes = nodes.map Node.strip := by
  induction nodes with
  | nil => rfl
  | cons first rest ih => simp [Node.stripAll, ih]

theorem Node.stripOptions_filter (attributes : List Node) :
    Node.stripOptions (attributes.filter fun node => !node.carriesOptions) =
      Node.stripOptions attributes := by
  induction attributes with
  | nil => rfl
  | cons first rest ih =>
      cases carries : first.carriesOptions with
      | true => simp [Node.stripOptions, carries, ih]
      | false => simp [Node.stripOptions, carries, ih]

theorem settle_map (change : α → β) (comma : List α) (settled : Bool)
    (parts : List (List α × Bool)) :
    (settle comma settled parts).map change =
      settle (comma.map change) settled (parts.map fun (part, own) => (part.map change, own)) := by
  induction parts generalizing settled with
  | nil => rfl
  | cons first rest ih =>
      obtain ⟨part, own⟩ := first
      cases settled <;> cases own <;> simp [settle, ih]

theorem listed_map (change : α → β) (comma : List α) (trailing : Bool) (parts : List (List α)) :
    (listed comma trailing parts).map change =
      listed (comma.map change) trailing (parts.map (List.map change)) := by
  rw [listed, listed, settle_map, withCommas_map]

/-! ### What is not read -/

def Field.withoutOptions (field : Field) : Field :=
  { field with attributes := field.attributes.filter fun node => !node.carriesOptions }

/-- The structure without the options that stand on it and on its positional fields. -/
def StructItem.withoutUnread (item : StructItem) : StructItem :=
  { item with
    attributes := item.attributes.filter fun node => !node.carriesOptions
    fields := match item.fields with
      | .named fields trailing => .named fields trailing
      | .positional fields trailing => .positional (fields.map Field.withoutOptions) trailing
      | .unit => .unit }

theorem Field.strip_withoutOptions (field : Field) :
    field.withoutOptions.node.strip = field.node.strip := by
  simp only [Field.node, Field.withoutOptions, Node.strip, Node.stripOptions_filter]

theorem Fields.strip_withoutOptions (fields : List Field) (trailing : Bool) :
    Node.stripAll (Fields.positional (fields.map Field.withoutOptions) trailing).nodes =
      Node.stripAll (Fields.positional fields trailing).nodes := by
  simp only [Fields.nodes, Node.stripAll_eq_map, List.map_cons, List.map_nil, Node.strip,
    listed_map, List.map_map, Function.comp_def, Field.strip_withoutOptions]

theorem Node.stripAll_seq (parts : List (List Node)) :
    Node.stripAll (Node.seq parts) = Node.seq (parts.map Node.stripAll) := by
  have each : Node.stripAll = List.map Node.strip := funext Node.stripAll_eq_map
  rw [each, Node.seq, List.map_flatten, Node.seq]

theorem StructItem.strip_withoutUnread (item : StructItem) :
    item.withoutUnread.node.strip = item.node.strip := by
  have body : Node.stripAll item.withoutUnread.body = Node.stripAll item.body := by
    obtain ⟨attributes, visibility, name, generics, fields⟩ := item
    cases fields with
    | named fields trailing => rfl
    | unit => rfl
    | positional fields trailing =>
        simp only [withoutUnread, StructItem.body, Node.stripAll_seq, List.map_cons, List.map_nil,
          Fields.strip_withoutOptions]
  simp only [node, Node.strip, Node.stripAll_seq, List.map_cons, List.map_nil, body]
  simp only [withoutUnread, Node.stripOptions_filter]

theorem AttributeHead.eq_of_isNamed {head : AttributeHead} {name other : String}
    (named : head.isNamed name = true) (named' : head.isNamed other = true) : name = other := by
  unfold AttributeHead.isNamed at named named'
  cases path : head.path with
  | nil => simp [path] at named
  | cons only rest =>
      cases rest with
      | nil =>
          simp only [path, Bool.and_eq_true, beq_iff_eq] at named named'
          exact named.2.symm.trans named'.2
      | cons second more => simp [path] at named

theorem attributesNamed_filter {name : String} (differ : name ≠ optionName)
    (attributes : List Node) :
    attributesNamed name (attributes.filter fun node => !node.carriesOptions) =
      attributesNamed name attributes := by
  simp only [attributesNamed]
  induction attributes with
  | nil => rfl
  | cons first rest ih =>
      cases carries : first.carriesOptions with
      | false =>
          simp only [List.filter_cons, carries, Bool.not_false, if_true, List.filterMap_cons]
          cases first.head? with
          | none => exact ih
          | some head => simp only [List.filter_cons, ih]
      | true =>
          obtain ⟨head, found, named⟩ : ∃ head, first.head? = some head ∧
              head.isNamed optionName = true := by
            simpa [Node.carriesOptions, Option.any_eq_true] using carries
          have other : head.isNamed name = false := by
            cases own : head.isNamed name with
            | false => rfl
            | true => exact absurd (head.eq_of_isNamed own named) differ
          simp only [List.filter_cons, carries, Bool.not_true, Bool.false_eq_true, if_false,
            List.filterMap_cons, found, other, ih]

theorem Schema.extract_withoutUnread (item : StructItem) :
    Schema.extract (.ofStruct item.withoutUnread) = Schema.extract (.ofStruct item) := by
  have derives : derivedPaths item.withoutUnread.attributes = derivedPaths item.attributes := by
    have differ : "derive" ≠ optionName := by decide
    simp only [derivedPaths, StructItem.withoutUnread, attributesNamed_filter differ]
  obtain ⟨attributes, visibility, name, generics, fields⟩ := item
  cases fields with
  | named fields trailing => simp only [extract, Declaration.ofStruct, derives]; rfl
  | positional fields trailing => rfl
  | unit => rfl

theorem synthesize_withoutUnread (item : StructItem) (options : Options) :
    synthesize (.ofStruct item.withoutUnread) options = synthesize (.ofStruct item) options := by
  rw [synthesize, Schema.extract_withoutUnread, synthesize]

theorem Item.strippedTrees_withoutUnread (item : StructItem) :
    (Item.struct item.withoutUnread).strippedTrees = (Item.struct item).strippedTrees := by
  simp only [strippedTrees, Item.nodes, Node.stripAll, StructItem.strip_withoutUnread]

/-! ### What is read -/

theorem read_of_skipsFrom {seen skipped : Bool} {heads : List AttributeHead}
    (accepted : skipsFrom seen heads = .ok skipped) :
    ∀ head ∈ heads, ∃ words, head.readArguments (optionWords ["skip"]) = .ok words := by
  induction heads generalizing seen with
  | nil => simp
  | cons head rest ih =>
      rw [List.forall_mem_cons]
      rw [skipsFrom] at accepted
      split at accepted
      · cases accepted
      · rename_i own
        exact ⟨⟨_, own⟩, ih accepted⟩
      · rename_i own
        split at accepted
        · cases accepted
        · exact ⟨⟨_, own⟩, ih accepted⟩

namespace Schema

/-- All options on the named fields of a structure with a schema have been read. -/
theorem read_of_extract {declaration : Declaration} {result : Option Schema}
    {fields : List Field} {trailing : Bool}
    (extracted : extract declaration = .ok result)
    (named : declaration.item.fields = .named fields trailing) {field : Field}
    (member : field ∈ fields) (hasName : field.name.isSome = true) :
    ∀ head ∈ attributesNamed optionName field.attributes,
      ∃ words, head.readArguments (optionWords ["skip"]) = .ok words := by
  obtain ⟨name, own⟩ := Option.isSome_iff_exists.mp hasName
  have role : roleOf field name ∈ roles fields :=
    List.mem_filterMap.mpr ⟨field, member, by rw [own]; rfl⟩
  cases skipped : skips field.attributes with
  | ok decided => exact read_of_skipsFrom skipped
  | error diagnostics =>
      have faulty : roleOf field name = .faulty diagnostics := by rw [roleOf, skipped]
      obtain ⟨fault, rfl⟩ := sole_of_skipsFrom skipped
      have noFaults := (List.append_eq_nil_iff.mp (clean_of_extract extracted named)).1
      have clean := List.flatMap_eq_nil_iff.mp noFaults _ role
      rw [faulty] at clean
      cases clean

end Schema

/-! ### Expansions -/

theorem extract_of_synthesize {declaration : Declaration} {options : Options} {added : List Tree}
    (synthesized : synthesize declaration options = .ok added) :
    ∃ result, Schema.extract declaration = .ok result := by
  rw [synthesize] at synthesized
  split at synthesized
  · cases synthesized
  · rename_i own
    exact ⟨none, own⟩
  · rename_i schema own
    exact ⟨some schema, own⟩

theorem expandItem_ok {options tokens : List Token} {output : List Tree}
    (accepted : expandItem options tokens = .ok output) :
    ∃ item asked added, Source.item tokens = .ok (.struct item) ∧
      Options.read options = .ok asked ∧ synthesize (.ofStruct item) asked = .ok added ∧
      output = (Item.struct item).strippedTrees ++ added := by
  obtain ⟨asked, read, accepted⟩ := bind_eq_ok.mp accepted
  obtain ⟨item, parsed, accepted⟩ := bind_eq_ok.mp accepted
  cases item with
  | struct item =>
      obtain ⟨added, synthesized, accepted⟩ := bind_eq_ok.mp accepted
      cases accepted
      exact ⟨item, asked, added, mapError_eq_ok.mp parsed, mapError_eq_ok.mp read,
        mapError_eq_ok.mp synthesized, rfl⟩
  | impl item => cases accepted
  | other nodes span => cases accepted

/-- Where options stand next to a structure, those on its named fields have all been read once it is
expanded. Those on the structure itself and on positional fields are never read: whatever they are,
they are removed, and what is added stays the same. -/
theorem expandItem_options {options tokens : List Token} {output : List Tree}
    (accepted : expandItem options tokens = .ok output) :
    ∃ item asked added, Source.item tokens = .ok (.struct item) ∧
      Options.read options = .ok asked ∧ synthesize (.ofStruct item) asked = .ok added ∧
      output = (Item.struct item).strippedTrees ++ added ∧
      (∀ fields trailing, item.fields = .named fields trailing →
        ∀ field ∈ fields, field.name.isSome = true →
          ∀ head ∈ attributesNamed optionName field.attributes,
            ∃ words, head.readArguments (optionWords ["skip"]) = .ok words) ∧
      ∀ other : StructItem, other.withoutUnread = item.withoutUnread →
        (Item.struct other).strippedTrees = (Item.struct item).strippedTrees ∧
        ∀ asked : Options, synthesize (.ofStruct other) asked = synthesize (.ofStruct item) asked := by
  obtain ⟨item, asked, added, parsed, read, synthesized, printed⟩ := expandItem_ok accepted
  refine ⟨item, asked, added, parsed, read, synthesized, printed, ?_, ?_⟩
  · intro fields trailing named field member hasName
    obtain ⟨result, extracted⟩ := extract_of_synthesize synthesized
    exact Schema.read_of_extract extracted named member hasName
  · intro other same
    constructor
    · rw [← Item.strippedTrees_withoutUnread other, same, Item.strippedTrees_withoutUnread]
    · intro asked
      rw [← synthesize_withoutUnread other, same, synthesize_withoutUnread]

def unreadText : String :=
  "#[one_of(bogus)] struct S \x7b #[one_of(skip)] a: Option<u8>, x: Option<u8> \x7d"

theorem expandItem_options_accepted :
    ∃ tokens output, Attempt.lexed unreadText = .ok tokens ∧ expandItem [] tokens = .ok output ∧
      ∃ item, Source.item tokens = .ok (.struct item) ∧
        ∀ other : StructItem, other.withoutUnread = item.withoutUnread →
          (Item.struct other).strippedTrees = (Item.struct item).strippedTrees := by
  have computed : ((Attempt.lexed unreadText).bind (expandItem [])).toOption.isSome = true := by
    decide +kernel
  obtain ⟨output, expanded⟩ := Option.isSome_iff_exists.mp computed
  obtain ⟨tokens, lexed, accepted⟩ := bind_eq_ok.mp (toOption_eq_some.mp expanded)
  obtain ⟨item, _, _, parsed, _, _, _, _, unread⟩ := expandItem_options accepted
  exact ⟨tokens, output, lexed, accepted, item, parsed, fun other same => (unread other same).1⟩

/-- Options that do not exist are removed from a structure and from a positional field without a
word; on the structure of a block they are an error. -/
theorem expandItem_options_ignored :
    (expandItemText "" "#[one_of(bogus)] struct S;").toOption = some "struct S ;" ∧
      (expandItemText "" "struct S(#[one_of(bogus)] u8);").toOption = some "struct S (u8) ;" ∧
      ((Attempt.lexed "#[one_of(bogus)] struct S \x7b x: Option<u8> \x7d").bind
        (expandItem [])).toOption.isSome = true ∧
      (expandBlockText "#[one_of(bogus)] struct S;").toOption = none := by
  decide +kernel

end SlotSum
