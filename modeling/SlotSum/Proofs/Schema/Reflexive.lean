import SlotSum.Proofs.Payload.Alike
import SlotSum.Proofs.Payload.Occurs
import SlotSum.Proofs.Schema.Conversions
import SlotSum.Proofs.Source.Print

/-!
Conversions of a slot next to the conversion that every type has from itself. Payloads are compared
with each other and not with the owner, so what keeps the two apart is the payload alone: nothing
that a parameter stands for can take the owner as an argument, but a projection out of a parameter
may be the owner itself.
-/

namespace SlotSum

/-! ### The owner as a type -/

def GenericParam.argument : GenericParam → Argument
  | .lifetime _ name _ => .lifetime name
  | .type _ name _ _ => .type (.path false [.mk name .none])
  | .const _ name _ _ => .type (.path false [.mk name .none])

def Generics.arguments (generics : Generics) : Arguments :=
  if generics.params.isEmpty then .none
  else .angle false (generics.params.map GenericParam.argument) generics.trailing

namespace Schema

def ownerSegment (schema : Schema) : Segment := .mk schema.owner.text schema.generics.arguments

def ownerType (schema : Schema) : Ty := .path false [schema.ownerSegment]

/-- The type prints as what is implemented for. -/
theorem trees_ownerType (schema : Schema) : schema.ownerType.trees = schema.ownerTrees := by
  have each (param : GenericParam) :
      (param.argument.isLifetime, param.argument.trees) =
        (param.isLifetime, Node.treesAll (param.nodes .arguments)) := by
    cases param <;> rfl
  simp only [ownerType, ownerSegment, ownerTrees, ownerNodes, Generics.arguments, Generics.nodes,
    Ty.trees, Segment.treesAll, Segment.trees]
  split
  · rfl
  · simp only [Arguments.trees, Argument.treesEach_eq, List.map_map, Node.seq, List.flatten_cons,
      List.flatten_nil, Node.treesAll, Node.treesAll_append, Node.treesAll_lifetimesFirst]
    simp only [Function.comp_def, each]
    simp [Tree.seq, rootMark, Node.trees]

end Schema

/-! ### Choices for the parameters -/

/-- A type that comes out of a parameter: it, or what traits make of it. -/
def Ty.isOutOf (params : List String) : Ty → Bool
  | .group inner => inner.isOutOf params
  | .paren inner => inner.isOutOf params
  | .path rooted segments =>
    (Ty.path rooted segments).isParam params || Ty.isProjection params segments
  | .projection subject _ _ _ _ => subject.isOutOf params
  | _ => false

/-- A projection out of a parameter, which may be any type. -/
def Ty.isFree (params : List String) (type : Ty) : Bool :=
  match type.bare with
  | .path _ segments => Ty.isProjection params segments
  | .projection subject _ _ _ _ => subject.isOutOf params
  | _ => false

namespace Instantiation

/-- What is no projection out of a parameter remains a projection. -/
def Keeps (params : List String) (chosen : Instantiation) : Prop :=
  ∀ subject qualified rooted owner rest, subject.isOutOf params = false →
    ∃ subject' qualified' rooted' owner' rest',
      chosen.projection (.projection subject qualified rooted owner rest) =
        .projection subject' qualified' rooted' owner' rest'

def IsDefinite (params : List String) (chosen : Instantiation) : Prop :=
  ∀ name ∈ params, (chosen.param name).IsDefinite

end Instantiation

/-! ### Payloads next to the owner -/

namespace Schema

/-- The owner's name is one that a type can have. -/
def IsNamed (schema : Schema) : Prop :=
  schema.owner.text ∉ ["crate", "self", "super", "$crate", "Self"]

def Coincides (schema : Schema) (chosen : Instantiation) (payload : Ty) : Prop :=
  Ty.Same (payload.instantiate schema.typeParams chosen)
    (schema.ownerType.instantiate schema.typeParams chosen)

/-- A payload is a spelling of the owner: the owner's own name, or a path that ends in the owner's
name with arguments that become those of the owner. A path that leads nowhere counts too. -/
def Respells (schema : Schema) (chosen : Instantiation) (payload : Ty) : Prop :=
  payload.bare.isParam schema.typeParams = false ∧
    ∃ rooted segments, payload.bare = .path rooted segments ∧
      (Ty.isOwnName rooted segments = true ∨
        ∀ last, (segments.dropWhile Ty.isLeading).getLast? = some last →
          Segment.Same (last.instantiate schema.typeParams chosen)
            (schema.ownerSegment.instantiate schema.typeParams chosen))

end Schema

theorem Ty.name_of_isOwnName {rooted : Bool} {segment : Segment}
    (own : Ty.isOwnName rooted [segment] = true) : segment.name = "Self" := by
  obtain ⟨name, arguments⟩ := segment
  cases arguments with
  | none =>
      simp only [Ty.isOwnName, Bool.and_eq_true, beq_iff_eq] at own
      exact own.2
  | _ => cases own

theorem Ty.isFree_bare {params : List String} (type : Ty) :
    type.bare.isFree params = type.isFree params := by
  rw [Ty.isFree, Ty.isFree, Ty.bare_bare]

theorem Ty.instantiate_of_isFree {params : List String} {chosen : Instantiation} {type : Ty}
    (free : type.isFree params = true) :
    type.bare.instantiate params chosen = chosen.projection type.bare := by
  rw [Ty.isFree] at free
  cases bare : type.bare with
  | path rooted segments =>
      simp only [bare] at free
      have noParam : (Ty.path rooted segments).param? params = none := by
        rw [Ty.param?.eq_2]
        rintro name same
        cases same
        cases free
      simp [Ty.instantiate, noParam, free]
  | projection => rfl
  | _ =>
      rw [bare] at free
      cases free

theorem Ty.path_of_instantiate {params : List String} {chosen : Instantiation}
    (kept : chosen.Keeps params) {rooted : Bool} {segments : List Segment} : (type : Ty) →
    type.isFree params = false → (type.instantiate params chosen).bare = .path rooted segments →
    ∃ rooted segments, type.bare = .path rooted segments
  | .group inner, notFree, found => Ty.path_of_instantiate kept inner notFree found
  | .paren inner, notFree, found => Ty.path_of_instantiate kept inner notFree found
  | .path .., _, _ => ⟨_, _, rfl⟩
  | .projection subject qualified rooted owner rest, notFree, found => by
      obtain ⟨_, _, _, _, _, remains⟩ := kept subject qualified rooted owner rest notFree
      rw [Ty.instantiate, remains] at found
      cases found

theorem Ty.isOpen_of_isFree {params : List String} {type : Ty}
    (free : type.isFree params = true) : type.bare.isOpen params = true := by
  rw [Ty.isFree] at free
  cases bare : type.bare with
  | path rooted segments =>
      simp only [bare] at free
      simp [Ty.isOpen, free]
  | projection => rfl
  | _ =>
      rw [bare] at free
      cases free

theorem Segment.Same.name {segment other : Segment} (same : Segment.Same segment other) :
    segment.name = other.name := by
  cases same <;> rfl

theorem Generics.exists_of_mem_typeParams {generics : Generics} {name : String}
    (known : name ∈ generics.typeParams) :
    ∃ param ∈ generics.params, param.argument = .type (.path false [.mk name .none]) := by
  obtain ⟨param, member, named⟩ := List.mem_filterMap.mp known
  refine ⟨param, member, ?_⟩
  cases param with
  | type attributes own bounds default =>
      obtain rfl : own = name := Option.some.inj named
      rfl
  | _ => cases named

namespace Schema

variable {schema : Schema} {chosen : Instantiation} {payload : Ty}

theorem isParam_ownerType : schema.ownerType.isParam schema.typeParams = false := by
  by_cases empty : schema.generics.params = []
  · simp [ownerType, ownerSegment, Generics.arguments, typeParams, Generics.typeParams, empty,
      Ty.isParam]
  · simp [ownerType, ownerSegment, Generics.arguments, empty, Ty.isParam]

theorem instantiate_ownerType :
    schema.ownerType.instantiate schema.typeParams chosen =
      .path false [schema.ownerSegment.instantiate schema.typeParams chosen] :=
  Ty.instantiate_path isParam_ownerType rfl

theorem coincides_bare : schema.Coincides chosen payload.bare ↔ schema.Coincides chosen payload := by
  have bare : (payload.instantiate schema.typeParams chosen).bare =
      (payload.bare.instantiate schema.typeParams chosen).bare := Ty.bare_instantiate payload
  exact ⟨fun same => same.of_bare bare rfl, fun same => same.of_bare bare.symm rfl⟩

theorem path_of_coincides (same : schema.Coincides chosen payload) :
    ∃ rooted segments, (payload.instantiate schema.typeParams chosen).bare = .path rooted segments := by
  rw [Coincides, instantiate_ownerType] at same
  cases same with
  | own left => exact ⟨_, _, left⟩
  | path left => exact ⟨_, _, left⟩
  | _ left right => cases right

section

variable (named : schema.IsNamed)
include named

theorem isOwnName_owner (rooted : Bool) :
    Ty.isOwnName rooted [schema.ownerSegment.instantiate schema.typeParams chosen] = false := by
  cases own : Ty.isOwnName rooted [schema.ownerSegment.instantiate schema.typeParams chosen] with
  | false => rfl
  | true =>
      have name := Ty.name_of_isOwnName own
      rw [Segment.name_instantiate] at name
      exact absurd (by simp [show schema.owner.text = "Self" from name]) named

theorem dropWhile_owner :
    [schema.ownerSegment.instantiate schema.typeParams chosen].dropWhile Ty.isLeading =
      [schema.ownerSegment.instantiate schema.typeParams chosen] := by
  have other : Ty.isLeading schema.ownerSegment = false := by
    simp only [IsNamed, List.mem_cons, not_or] at named
    simp [Ty.isLeading, ownerSegment, Segment.name, named]
  simp [Ty.isLeading_instantiate, other]

theorem takes_owner {name : String} (known : name ∈ schema.typeParams) :
    (schema.ownerType.instantiate schema.typeParams chosen).Takes (chosen.param name) := by
  obtain ⟨param, member, argument⟩ := Generics.exists_of_mem_typeParams known
  have present : schema.generics.params ≠ [] := List.ne_nil_of_mem member
  let arguments := (schema.generics.params.map GenericParam.argument).map
    (Argument.instantiate schema.typeParams chosen)
  have segment : schema.ownerSegment.instantiate schema.typeParams chosen =
      .mk schema.owner.text (.angle false arguments schema.generics.trailing) := by
    simp [arguments, ownerSegment, Generics.arguments, present, Segment.instantiate,
      Arguments.instantiate, Argument.instantiateAll_eq_map]
  have own : .type (chosen.param name) ∈ arguments := by
    refine List.mem_map.mpr ⟨_, List.mem_map_of_mem member, ?_⟩
    simp [argument, Argument.instantiate, Ty.instantiate, Ty.param?, known]
  refine ⟨false, [schema.ownerSegment.instantiate schema.typeParams chosen], schema.owner.text,
    false, arguments, schema.generics.trailing, ?_, ?_, own⟩
  · rw [instantiate_ownerType]
    rfl
  · rw [dropWhile_owner named, segment]
    rfl

theorem not_coincides_of_isParam (definite : chosen.IsDefinite schema.typeParams)
    (param : payload.bare.isParam schema.typeParams = true) :
    ¬ schema.Coincides chosen payload := by
  obtain ⟨name, bare⟩ := Ty.eq_of_isParam param
  have known : name ∈ schema.typeParams := by simpa [bare, Ty.isParam] using param
  have chosenFor : (payload.instantiate schema.typeParams chosen).bare = (chosen.param name).bare := by
    rw [Ty.bare_instantiate, bare]
    simp [Ty.instantiate, Ty.param?, known]
  intro same
  refine (takes_owner named known).not_same (definite name known) ?_
    (same.of_bare chosenFor.symm rfl)
  intro rooted segments path
  rw [instantiate_ownerType] at path
  cases path
  exact isOwnName_owner named false

theorem coincides_path_iff {rooted : Bool} {segments : List Segment}
    (noParam : (Ty.path rooted segments).isParam schema.typeParams = false)
    (noProjection : Ty.isProjection schema.typeParams segments = false) :
    schema.Coincides chosen (.path rooted segments) ↔
      Ty.isOwnName rooted segments = true ∨
        ∀ last, (segments.dropWhile Ty.isLeading).getLast? = some last →
          Segment.Same (last.instantiate schema.typeParams chosen)
            (schema.ownerSegment.instantiate schema.typeParams chosen) := by
  rw [Coincides, Ty.instantiate_path noParam noProjection, instantiate_ownerType]
  constructor
  · intro same
    cases own : Ty.isOwnName rooted segments with
    | true => exact .inl rfl
    | false =>
        refine .inr fun last found => ?_
        have aligned := same.of_path ((Ty.isOwnName_instantiate _ _).trans own)
          (isOwnName_owner named false)
        refine aligned 0 _ _ (Ty.place_instantiate ?_) (by rw [dropWhile_owner named]; rfl)
        rw [← List.head?_eq_getElem?, List.head?_reverse]
        exact found
  · rintro (own | last)
    · exact .own rfl rfl (.inl ((Ty.isOwnName_instantiate _ _).trans own))
    · refine .path rfl rfl fun place first second here there => ?_
      rw [dropWhile_owner named, List.reverse_singleton] at there
      rw [Ty.dropWhile_instantiate, ← List.map_reverse, List.getElem?_map] at here
      obtain ⟨own, found, rfl⟩ := Option.map_eq_some_iff.mp here
      cases place with
      | zero =>
          obtain rfl := Option.some.inj there
          rw [← List.head?_eq_getElem?, List.head?_reverse] at found
          exact last own found
      | succ place => cases there

theorem coincides_iff (kept : chosen.Keeps schema.typeParams)
    (definite : chosen.IsDefinite schema.typeParams)
    (notFree : payload.isFree schema.typeParams = false) :
    schema.Coincides chosen payload ↔ schema.Respells chosen payload := by
  cases param : payload.bare.isParam schema.typeParams with
  | true =>
      -- what is chosen for a parameter is an argument of the owner, and so not the owner
      have apart := not_coincides_of_isParam named definite param
      exact ⟨fun same => absurd same apart, fun spelled => absurd spelled.1 (by simp [param])⟩
  | false =>
      constructor
      · intro same
        obtain ⟨_, _, path⟩ := path_of_coincides same
        obtain ⟨rooted, segments, bare⟩ := Ty.path_of_instantiate kept payload notFree path
        rw [← coincides_bare, bare] at same
        rw [Ty.isFree, bare] at notFree
        exact ⟨param, rooted, segments, bare,
          (coincides_path_iff named (bare ▸ param) notFree).mp same⟩
      · rintro ⟨-, rooted, segments, bare, spelled⟩
        rw [Ty.isFree, bare] at notFree
        rw [← coincides_bare, bare]
        exact (coincides_path_iff named (bare ▸ param) notFree).mpr spelled

end

theorem instantiate_ownerType_congr {chosen' : Instantiation} (same : chosen.param = chosen'.param) :
    schema.ownerType.instantiate schema.typeParams chosen =
      schema.ownerType.instantiate schema.typeParams chosen' := by
  have name (name : String) :
      (Ty.path false [.mk name .none]).instantiate schema.typeParams chosen =
        (Ty.path false [.mk name .none]).instantiate schema.typeParams chosen' := by
    simp only [Ty.instantiate, Ty.param?, same]
    rfl
  have each (param : GenericParam) :
      param.argument.instantiate schema.typeParams chosen =
        param.argument.instantiate schema.typeParams chosen' := by
    cases param with
    | lifetime => rfl
    | type attributes own bounds default => exact congrArg Argument.type (name own)
    | const attributes own type default => exact congrArg Argument.type (name own)
  rw [instantiate_ownerType, instantiate_ownerType]
  simp only [ownerSegment, Generics.arguments, Segment.instantiate]
  split
  · rfl
  · simp [Arguments.instantiate, Argument.instantiateAll_eq_map, each]

theorem exists_coincides_of_isFree (free : payload.isFree schema.typeParams = true)
    (param : String → Ty) :
    ∃ chosen : Instantiation, chosen.param = param ∧ chosen.Keeps schema.typeParams ∧
      schema.Coincides chosen payload := by
  -- every projection out of a parameter is the owner, and no other one changes
  let owner := schema.ownerType.instantiate schema.typeParams ⟨param, id⟩
  let chosen : Instantiation :=
    ⟨param, fun type => if type.isFree schema.typeParams then owner else type⟩
  have kept : chosen.Keeps schema.typeParams := by
    intro subject qualified rooted before rest closed
    refine ⟨subject, qualified, rooted, before, rest, ?_⟩
    have notFree : (Ty.projection subject qualified rooted before rest).isFree schema.typeParams =
        false := closed
    simp [chosen, notFree]
  refine ⟨chosen, rfl, kept, ?_⟩
  have becomes : payload.bare.instantiate schema.typeParams chosen = owner := by
    rw [Ty.instantiate_of_isFree free]
    simp [chosen, Ty.isFree_bare, free]
  have same : schema.ownerType.instantiate schema.typeParams chosen = owner :=
    instantiate_ownerType_congr rfl
  rw [← coincides_bare, Coincides, becomes, same]
  exact Ty.Same.refl owner

/-- A payload may be a spelling of the owner: it ends in the owner's name. -/
def mayRespell (schema : Schema) (payload : Ty) : Bool :=
  match payload.bare with
  | .path rooted segments =>
    Ty.isOwnName rooted segments ||
      (segments.dropWhile Ty.isLeading).getLast?.all fun last => last.name == schema.owner.text
  | _ => false

theorem mayRespell_of_respells (spelled : schema.Respells chosen payload) :
    schema.mayRespell payload = true := by
  obtain ⟨-, rooted, segments, bare, own | ends⟩ := spelled
  · simp [mayRespell, bare, own]
  · simp only [mayRespell, bare, Bool.or_eq_true, Option.all_eq_true, beq_iff_eq]
    refine .inr fun last found => ?_
    have names := (ends last found).name
    rwa [Segment.name_instantiate, Segment.name_instantiate] at names

/-- How the payload of a slot with conversions stands to the owner. -/
structure StandsToOwner (schema : Schema) (slot : Slot) : Prop where
  /-- A projection that may be any type has conversions only where no other slot is. -/
  alone : slot.payload.isFree schema.typeParams = true → schema.slots = [slot]
  free : slot.payload.isFree schema.typeParams = true → ∀ param : String → Ty,
    ∃ chosen : Instantiation, chosen.param = param ∧ chosen.Keeps schema.typeParams ∧
      schema.Coincides chosen slot.payload
  /-- No other payload does, parameters included, unless it ends in the owner's name. -/
  apart : slot.payload.isFree schema.typeParams = false →
    schema.mayRespell slot.payload = false →
    ∀ chosen : Instantiation, chosen.Keeps schema.typeParams →
      chosen.IsDefinite schema.typeParams → ¬ schema.Coincides chosen slot.payload
  /-- One that ends in it becomes the owner just if it spells it. -/
  respelled : slot.payload.isFree schema.typeParams = false →
    ∀ chosen : Instantiation, chosen.Keeps schema.typeParams →
      chosen.IsDefinite schema.typeParams →
      (schema.Coincides chosen slot.payload ↔ schema.Respells chosen slot.payload)

end Schema

namespace Plan

theorem alone_of_isOpen {schema : Schema} (separate : areApart schema = true) {index : Nat}
    {slot : Slot} (here : schema.slots[index]? = some slot)
    (free : slot.payload.bare.isOpen schema.typeParams = true) : schema.slots = [slot] := by
  match slots : schema.slots with
  | [] => simp [slots] at here
  | [sole] =>
      obtain ⟨inside, rfl⟩ := List.getElem?_eq_some_iff.mp here
      simp [slots]
  | first :: second :: rest =>
      have head : schema.slots[0]? = some first := by simp [slots]
      have next : schema.slots[1]? = some second := by simp [slots]
      cases index with
      | zero =>
          have overlap := Ty.overlaps_of_isOpen_left (b := second.payload) slot.payload free
          rw [overlaps_of_areApart separate (Nat.zero_lt_one) here next] at overlap
          cases overlap
      | succ index =>
          have overlap := Ty.overlaps_of_isOpen_right free first.payload
          rw [overlaps_of_areApart separate (Nat.zero_lt_succ index) head here] at overlap
          cases overlap

/-- A conversion meets the one that every type has from itself just if its payload is a projection
out of a parameter or spells the owner. -/
theorem reflexive_decide {schema : Schema} {options : Options} {plan : Plan}
    (accepted : analyze schema options = .ok plan) (named : schema.IsNamed) {index : Nat}
    {slot : Slot} {conversions : Conversions} (here : schema.slots[index]? = some slot)
    (planned : plan.conversions[index]? = some conversions)
    (converts : (conversions.into || conversions.outOf) = true) :
    schema.StandsToOwner slot where
  alone free := by
    rw [conversions_of_analyze accepted] at planned
    exact alone_of_isOpen (areApart_of_converts planned converts) here (Ty.isOpen_of_isFree free)
  free := Schema.exists_coincides_of_isFree
  apart notFree other chosen kept definite same := by
    have spelled := (Schema.coincides_iff named kept definite notFree).mp same
    simp [Schema.mayRespell_of_respells spelled] at other
  respelled notFree chosen kept definite := Schema.coincides_iff named kept definite notFree

def solitary (payload : Ty) : Schema :=
  { owner := ⟨"Solitary", .callSite⟩, visibility := .inherited
    generics := ⟨[.type [] "T" [] []], false, [], false⟩
    slots := [⟨⟨"value", .callSite⟩, payload⟩]
    others := [], derives := [], constructor := none }

theorem solitary_isNamed (payload : Ty) : (solitary payload).IsNamed := by
  change "Solitary" ∉ _
  decide

/-- Neither a parameter by itself nor a list of it becomes the type that holds it. -/
theorem reflexive_decide_parameter :
    let parameter : Ty := .path false [.mk "T" .none]
    ∀ payload ∈ [parameter, .path false [.mk "Vec" (.angle false [.type parameter] false)]],
      ∃ plan conversions, analyze (solitary payload) .default = .ok plan ∧
        plan.conversions = [conversions] ∧ conversions.into = true ∧
        ∀ chosen : Instantiation, chosen.Keeps ["T"] → chosen.IsDefinite ["T"] →
          ¬ (solitary payload).Coincides chosen payload := by
  intro parameter payload member
  have planned : planConversions (solitary payload) = [conversionsOf (solitary payload)
      ⟨⟨"value", .callSite⟩, payload⟩] := rfl
  obtain ⟨plan, accepted⟩ : ∃ plan, analyze (solitary payload) .default = .ok plan := ⟨_, rfl⟩
  have conversions := (conversions_of_analyze accepted).trans planned
  have here : (solitary payload).slots[0]? = some ⟨⟨"value", .callSite⟩, payload⟩ := rfl
  have stands := reflexive_decide accepted (solitary_isNamed payload) here
    (by rw [conversions]; rfl) rfl
  refine ⟨plan, _, accepted, conversions, rfl, stands.apart ?_ ?_⟩
  all_goals
    simp only [List.mem_cons, List.not_mem_nil, or_false] at member
    rcases member with rfl | rfl
    · decide
    · decide

/-- What an iterator yields may be the type that holds it. -/
theorem reflexive_decide_item :
    let item : Segment := .mk "Item" .none
    let parameter : Segment := .mk "T" .none
    ∀ payload ∈ [.path false [parameter, item],
        .projection (.path false [parameter]) true false [.mk "Iterator" .none] [item]],
      ∃ plan, analyze (solitary payload) .default = .ok plan ∧
        plan.conversions = [⟨true, true⟩] ∧
        ∃ chosen : Instantiation, chosen.param "T" = .path false [.mk "u8" .none] ∧
          chosen.Keeps ["T"] ∧ chosen.IsDefinite ["T"] ∧
          (solitary payload).Coincides chosen payload := by
  intro item parameter payload member
  obtain ⟨planned, free⟩ : planConversions (solitary payload) = [⟨true, true⟩] ∧
      payload.isFree (solitary payload).typeParams = true := by
    simp only [List.mem_cons, List.not_mem_nil, or_false] at member
    rcases member with rfl | rfl
    · exact ⟨by decide +kernel, by decide⟩
    · exact ⟨by decide +kernel, by decide⟩
  obtain ⟨plan, accepted⟩ : ∃ plan, analyze (solitary payload) .default = .ok plan := ⟨_, rfl⟩
  obtain ⟨chosen, params, kept, same⟩ :=
    Schema.exists_coincides_of_isFree free fun _ => .path false [.mk "u8" .none]
  refine ⟨plan, accepted, (conversions_of_analyze accepted).trans planned, chosen,
    congrFun params "T", kept, fun name known => ?_, same⟩
  rw [congrFun params name]
  exact Ty.isDefinite_name (by decide) (by decide)

end Plan

end SlotSum
