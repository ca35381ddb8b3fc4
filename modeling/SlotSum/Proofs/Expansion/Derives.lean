import SlotSum.Proofs.Expansion.Constructor

/-!
Derives next to an expansion. A trait that is implemented for equality or the wire is not to be
derived as well. Derives are checked against a list of names, which are those of the traits that are
implemented; but the names are compared by their text, so a derive that puts the mark of a raw name
on its trait goes unnoticed.
-/

namespace SlotSum

variable {schema : Schema} {options : Options} {plan : Plan}

/-! ### Implemented traits -/

/-- The name of the trait that is implemented, if there is one. -/
def Implementation.trait? (implementation : Implementation) : Option String :=
  implementation.ofTrait.map TraitPath.name

namespace Schema

/-- The implementations for equality and the wire that the options ask for. -/
def optionalImplementations (schema : Schema) (options : Options) : List Implementation :=
  schema.equality ⟨options.eq, options.hash⟩ ++ if options.serde then schema.wire else []

/-- What a plan adds for some of its requests. -/
def implementationsFor (schema : Schema) (plan : Plan) (requests : List Request) :
    List Implementation :=
  (plan.requests.filter fun request => request ∈ requests).flatMap fun request =>
    (schema.part plan request).implementations

theorem implementationsFor_options (accepted : Plan.analyze schema options = .ok plan) :
    schema.implementationsFor plan [.equality, .serde] =
      schema.optionalImplementations options := by
  obtain ⟨requests, equalities⟩ := Plan.requests_of_analyze accepted
  have asked : plan.requests.filter (fun request => request ∈ [Request.equality, .serde]) =
      .equality :: if options.serde then [.serde] else [] := by
    rw [requests, Plan.requestsOf]
    cases plan.constructor <;>
      cases plan.conversions.any (fun each => each.into || each.outOf) <;>
      cases options.serde <;> rfl
  rw [implementationsFor, asked, optionalImplementations, ← equalities]
  cases options.serde <;> simp [part, Part.traits]

/-- The names that derives are checked against are those of the implemented traits, in another
order. -/
theorem traits_optionalImplementations :
    ((schema.optionalImplementations options).map Implementation.trait?).Perm
      ((Plan.implementedTraits options).map some) := by
  have own : (schema.optionalImplementations options).map Implementation.trait? =
      ((["PartialEq"] ++ if options.eq then ["Eq"] else []) ++
        ((if options.hash then ["Hash"] else []) ++
          if options.serde then ["Serialize", "Deserialize"] else [])).map some := by
    rw [optionalImplementations]
    cases options.eq <;> cases options.hash <;> cases options.serde <;> rfl
  rw [own, Plan.implementedTraits]
  cases options.eq <;> cases options.hash <;> cases options.serde <;> decide

end Schema

/-! ### Derives -/

namespace Derived

/-- The trait that a derive names is the one that is implemented, however its name is spelled. -/
def names (derived : Derived) (implementation : Implementation) : Bool :=
  match derived.trait?, implementation.trait? with
  | some spelled, some name => isSameIdentifier spelled name
  | _, _ => false

/-- The trait is spelled with the mark of a raw name. -/
def isMarked (derived : Derived) : Bool :=
  derived.trait?.any fun spelled => Slot.unmarked spelled.toList != spelled.toList

/-- What is reported of a derive of a trait that is implemented anyway. -/
def conflict (derived : Derived) : Diagnostic :=
  ⟨.derivedTwice (derived.trait?.getD ""), derived.span⟩

end Derived

namespace Schema

/-- A derive of a trait that is implemented anyway. -/
def isRepeated (schema : Schema) (options : Options) (derived : Derived) : Bool :=
  (schema.optionalImplementations options).any derived.names

theorem unmarked_of_implemented {name : String}
    (implemented : name ∈ Plan.implementedTraits options) :
    Slot.unmarked name.toList = name.toList := by
  have all : ∀ name ∈ ["PartialEq", "Hash", "Eq", "Serialize", "Deserialize"],
      Slot.unmarked name.toList = name.toList := by
    decide
  refine all name ?_
  rw [Plan.implementedTraits] at implemented
  revert implemented
  cases options.hash <;> cases options.eq <;> cases options.serde <;> simp <;> tauto

theorem isRepeated_iff {derived : Derived} :
    schema.isRepeated options derived = true ↔
      ∃ spelled, derived.trait? = some spelled ∧
        ∃ name ∈ Plan.implementedTraits options, isSameIdentifier spelled name = true := by
  have implemented (name : String) : (∃ implementation ∈ schema.optionalImplementations options,
      implementation.trait? = some name) ↔ name ∈ Plan.implementedTraits options := by
    rw [← List.mem_map, traits_optionalImplementations.mem_iff]
    simp
  rw [isRepeated, List.any_eq_true]
  constructor
  · rintro ⟨implementation, member, named⟩
    unfold Derived.names at named
    split at named
    · rename_i spelled name own ofTrait
      exact ⟨spelled, own, name, (implemented name).mp ⟨implementation, member, ofTrait⟩, named⟩
    · cases named
  · rintro ⟨spelled, own, name, member, same⟩
    obtain ⟨implementation, member, ofTrait⟩ := (implemented name).mpr member
    exact ⟨implementation, member, by rw [Derived.names, own, ofTrait]; exact same⟩

/-- Noticed are the derives whose trait is spelled as it is in the list of names. -/
theorem derivedTwice?_eq (schema : Schema) (derived : Derived) :
    Plan.derivedTwice? options derived =
      if schema.isRepeated options derived && !derived.isMarked then some derived.conflict
      else none := by
  have noticed : (schema.isRepeated options derived && !derived.isMarked) = true ↔
      ∃ spelled, derived.trait? = some spelled ∧ spelled ∈ Plan.implementedTraits options := by
    rw [Bool.and_eq_true, isRepeated_iff]
    constructor
    · rintro ⟨⟨spelled, own, name, member, same⟩, plain⟩
      have own' : Slot.unmarked spelled.toList = spelled.toList := by
        simpa [Derived.isMarked, own] using plain
      rw [isSameIdentifier_iff, own', unmarked_of_implemented member, String.toList_inj] at same
      exact ⟨spelled, own, same ▸ member⟩
    · rintro ⟨spelled, own, member⟩
      refine ⟨⟨spelled, own, spelled, member, isSameIdentifier_of_eq rfl⟩, ?_⟩
      simp [Derived.isMarked, own, unmarked_of_implemented member]
  rw [Plan.derivedTwice?]
  cases own : derived.trait? with
  | none =>
      rw [if_neg]
      rw [noticed, own]
      simp
  | some spelled =>
      have agree : ((Plan.implementedTraits options).contains spelled = true) ↔
          (schema.isRepeated options derived && !derived.isMarked) = true := by
        simp [noticed, own]
      simp only [agree, Derived.conflict, own, Option.getD_some]

theorem deriveConflicts_eq (schema : Schema) (options : Options) (derives : List Derived) :
    Plan.deriveConflicts options derives =
      (derives.filter fun derived => schema.isRepeated options derived && !derived.isMarked).map
        Derived.conflict := by
  rw [Plan.deriveConflicts]
  induction derives with
  | nil => rfl
  | cons first rest ih =>
      rw [List.filterMap_cons, List.filter_cons, derivedTwice?_eq schema first]
      split
      · rename_i repeated
        split at repeated
        · cases repeated
        · rw [if_neg ‹_›, ih]
      · rename_i repeated
        split at repeated
        · rw [if_pos ‹_›, List.map_cons, ih, ← Option.some.inj repeated]
        · cases repeated

/-- Some derives are reported, one by one and in their order, instead of anything that is wrong with
the constructor; and if there are none of them, no derive is. -/
structure ReportsDerives (schema : Schema) (options : Options) (counts : Derived → Bool) : Prop where
  conflict :
    (∃ diagnostics, Plan.analyze schema options = .error diagnostics ∧
      ∃ diagnostic ∈ diagnostics, ∃ trait, diagnostic.complaint = .derivedTwice trait) ↔
    ∃ derived ∈ schema.derives, counts derived = true
  reported : (∃ derived ∈ schema.derives, counts derived = true) →
    Plan.analyze schema options =
      .error ((schema.derives.filter counts).map Derived.conflict)
  accepted : ∀ plan, Plan.analyze schema options = .ok plan →
    ∀ derived ∈ schema.derives, counts derived = false

theorem analyze_of_conflicts {counts : Derived → Bool}
    (conflicts : Plan.deriveConflicts options schema.derives =
      (schema.derives.filter counts).map Derived.conflict)
    (some_ : ∃ derived ∈ schema.derives, counts derived = true) :
    Plan.analyze schema options =
      .error ((schema.derives.filter counts).map Derived.conflict) := by
  obtain ⟨derived, member, counted⟩ := some_
  unfold Plan.analyze
  rw [conflicts]
  split
  · rename_i none_
    rw [List.map_eq_nil_iff, List.filter_eq_nil_iff] at none_
    exact absurd counted (none_ derived member)
  · rfl

/-- Without a conflict nothing is complained about but the constructor. -/
theorem constructor_of_analyze_error {diagnostics : List Diagnostic}
    (clean : Plan.deriveConflicts options schema.derives = [])
    (failed : Plan.analyze schema options = .error diagnostics) :
    ∃ slots span, diagnostics = [⟨.otherConstructor slots, span⟩] := by
  unfold Plan.analyze at failed
  rw [clean] at failed
  cases planned : Plan.constructorPlan schema with
  | ok constructor => simp only [planned] at failed; cases failed
  | error reasons =>
      simp only [planned] at failed
      cases failed
      unfold Plan.constructorPlan at planned
      split at planned
      · cases planned
      · split at planned
        · cases planned
        · cases planned
          exact ⟨_, _, rfl⟩

theorem reportsDerives_noticed (schema : Schema) (options : Options) :
    schema.ReportsDerives options fun derived =>
      schema.isRepeated options derived && !derived.isMarked := by
  have conflicts := deriveConflicts_eq schema options schema.derives
  refine ⟨⟨?_, fun some_ => ?_⟩, analyze_of_conflicts conflicts, fun plan accepted => ?_⟩
  · rintro ⟨diagnostics, failed, diagnostic, member, trait, own⟩
    refine Classical.byContradiction fun none_ => ?_
    have clean : Plan.deriveConflicts options schema.derives = [] := by
      rw [conflicts, List.map_eq_nil_iff, List.filter_eq_nil_iff]
      exact fun derived member counted => none_ ⟨derived, member, counted⟩
    obtain ⟨slots, span, rfl⟩ := constructor_of_analyze_error clean failed
    rw [List.mem_singleton.mp member] at own
    cases own
  · refine ⟨_, analyze_of_conflicts conflicts some_, ?_⟩
    obtain ⟨derived, member, counted⟩ := some_
    exact ⟨derived.conflict, List.mem_map_of_mem (List.mem_filter.mpr ⟨member, counted⟩), _, rfl⟩
  · refine Classical.byContradiction fun some_ => ?_
    simp only [not_forall, Bool.not_eq_false] at some_
    obtain ⟨derived, member, counted⟩ := some_
    rw [analyze_of_conflicts conflicts ⟨derived, member, counted⟩] at accepted
    cases accepted

theorem ReportsDerives.filter_eq {counts counts' : Derived → Bool}
    (reports : schema.ReportsDerives options counts)
    (reports' : schema.ReportsDerives options counts') :
    (schema.derives.filter counts).map Derived.conflict =
      (schema.derives.filter counts').map Derived.conflict := by
  by_cases some_ : ∃ derived ∈ schema.derives, counts derived = true
  · have some' := reports'.conflict.mp (reports.conflict.mpr some_)
    have same := (reports.reported some_).symm.trans (reports'.reported some')
    exact Except.error.inj same
  · have none' : ¬ ∃ derived ∈ schema.derives, counts' derived = true :=
      fun some' => some_ (reports.conflict.mp (reports'.conflict.mpr some'))
    simp only [not_exists, not_and] at some_ none'
    rw [List.filter_eq_nil_iff.mpr some_, List.filter_eq_nil_iff.mpr none']

theorem ReportsDerives.congr {counts counts' : Derived → Bool}
    (reports : schema.ReportsDerives options counts)
    (same : ∀ derived ∈ schema.derives, counts derived = counts' derived) :
    schema.ReportsDerives options counts' := by
  have some_iff : (∃ derived ∈ schema.derives, counts derived = true) ↔
      ∃ derived ∈ schema.derives, counts' derived = true :=
    exists_congr fun derived => and_congr_right fun member => by rw [same derived member]
  refine ⟨reports.conflict.trans some_iff, fun some' => ?_, fun plan accepted derived member => ?_⟩
  · rw [← List.filter_congr same]
    exact reports.reported (some_iff.mpr some')
  · rw [← same derived member]
    exact reports.accepted plan accepted derived member

/-- What is implemented for equality and the wire is implemented for the owner, and an accepted plan
emits just that. A derive of one of these traits is reported if it spells the trait as it is; so all
of them are reported just if none has the mark of a raw name. -/
theorem derives_decide (schema : Schema) (options : Options) :
    (∀ implementation ∈ schema.optionalImplementations options,
      implementation.target = schema.ownerTrees ∧ implementation.trait?.isSome = true) ∧
    (∀ plan, Plan.analyze schema options = .ok plan →
      schema.implementationsFor plan [.equality, .serde] =
        schema.optionalImplementations options) ∧
    (schema.ReportsDerives options fun derived =>
      schema.isRepeated options derived && !derived.isMarked) ∧
    (schema.ReportsDerives options (schema.isRepeated options) ↔
      ∀ derived ∈ schema.derives, schema.isRepeated options derived = true →
        derived.isMarked = false) := by
  have noticed := reportsDerives_noticed schema options
  refine ⟨fun implementation member => ?_, fun plan => implementationsFor_options, noticed,
    fun reports => ?_, fun plain => ?_⟩
  · rw [optionalImplementations, List.mem_append, mem_equality] at member
    rcases member with (rfl | ⟨-, rfl⟩ | ⟨-, rfl⟩) | member
    · exact ⟨rfl, rfl⟩
    · exact ⟨rfl, rfl⟩
    · exact ⟨rfl, rfl⟩
    · split at member
      · rcases mem_wire.mp member with rfl | rfl
        · exact ⟨rfl, rfl⟩
        · exact ⟨rfl, rfl⟩
      · cases member
  · have lengths := congrArg List.length (noticed.filter_eq reports)
    simp only [List.length_map, Bool.and_comm (schema.isRepeated options _)] at lengths
    rw [← List.filter_filter, List.length_filter_eq_length_iff] at lengths
    intro derived member repeated
    simpa using lengths derived (List.mem_filter.mpr ⟨member, repeated⟩)
  · refine noticed.congr fun derived member => ?_
    cases repeated : schema.isRepeated options derived with
    | false => rfl
    | true => simp [plain derived member repeated]

/-- A structure with a list of derives. -/
def derivingText (traits : String) : String :=
  "#[derive(" ++ traits ++ ")] struct S \x7b x: Option<u8> \x7d"

/-- Of each derive in a block its trait, whether this is implemented anyway, and whether it is spelled
with a mark; and whether a plan is accepted. -/
def surveyedDerives (text : String) : Option (List (Option String × Bool × Bool) × Bool) := do
  let (_, _, _, schema) ← readBlock text
  let derives := schema.derives.map fun derived =>
    (derived.trait?, schema.isRepeated .default derived, derived.isMarked)
  return (derives, (Plan.analyze schema .default).toOption.isSome)

theorem derives_decide_listed :
    ∃ block items item schema debug equality hash,
      readBlock (derivingText "Debug, PartialEq, std::hash::Hash") =
        some (block, items, item, schema) ∧
      schema.derives = [debug, equality, hash] ∧
      (∀ derived ∈ schema.derives, schema.isRepeated .default derived = true →
        derived.isMarked = false) ∧
      Plan.analyze schema .default = .error [equality.conflict, hash.conflict] := by
  have surveyed : surveyedDerives (derivingText "Debug, PartialEq, std::hash::Hash") =
      some ([(some "Debug", false, false), (some "PartialEq", true, false),
        (some "Hash", true, false)], false) := by
    decide +kernel
  simp only [surveyedDerives, Option.bind_eq_bind, Option.bind_eq_some_iff, Option.pure_def,
    Option.some.injEq, Prod.mk.injEq, Prod.exists] at surveyed
  obtain ⟨block, items, item, schema, read, derives, -⟩ := surveyed
  simp only [List.map_eq_cons_iff, List.map_eq_nil_iff, Prod.mk.injEq] at derives
  obtain ⟨debug, _, own, ⟨-, other, -⟩, equality, _, rfl, ⟨-, repeated, plain⟩, hash, _, rfl,
    ⟨-, repeated', plain'⟩, rfl⟩ := derives
  have unmarked : ∀ derived ∈ schema.derives, schema.isRepeated .default derived = true →
      derived.isMarked = false := by
    simp [own, plain, plain', other]
  obtain ⟨-, -, -, decided⟩ := derives_decide schema .default
  have reported := (decided.mpr unmarked).reported ⟨equality, by simp [own], repeated⟩
  refine ⟨block, items, item, schema, debug, equality, hash, read, own, unmarked, ?_⟩
  rw [reported, own]
  simp [other, repeated, repeated']

/-- The mark of a raw name hides a derive that is reported without it: the plan is accepted, and
partial equality is both implemented and derived. -/
theorem derives_decide_marked :
    complaints (derivingText "PartialEq") =
      ["`PartialEq` is implemented by #[one_of] and cannot also be derived"] ∧
    ∃ block items item schema plan derived,
      readBlock (derivingText "r#PartialEq") = some (block, items, item, schema) ∧
      Plan.analyze schema .default = .ok plan ∧
      schema.derives = [derived] ∧ derived.trait? = some "r#PartialEq" ∧
      schema.isRepeated .default derived = true ∧
      ¬ schema.ReportsDerives .default (schema.isRepeated .default) := by
  refine ⟨by decide +kernel, ?_⟩
  have surveyed : surveyedDerives (derivingText "r#PartialEq") =
      some ([(some "r#PartialEq", true, true)], true) := by
    decide +kernel
  simp only [surveyedDerives, Option.bind_eq_bind, Option.bind_eq_some_iff, Option.pure_def,
    Option.some.injEq, Prod.mk.injEq, Prod.exists] at surveyed
  obtain ⟨block, items, item, schema, read, derives, accepted⟩ := surveyed
  obtain ⟨derived, own, facts⟩ := List.map_eq_singleton_iff.mp derives
  simp only [Prod.mk.injEq] at facts
  obtain ⟨named, repeated, -⟩ := facts
  obtain ⟨plan, accepted⟩ := Option.isSome_iff_exists.mp accepted
  have accepted := toOption_eq_some.mp accepted
  refine ⟨block, items, item, schema, plan, derived, read, accepted, own, named, repeated,
    fun reports => ?_⟩
  have none_ := reports.accepted plan accepted derived (by simp [own])
  rw [repeated] at none_
  cases none_

end Schema

end SlotSum
