import SlotSum.Proofs.Expansion.Implementations

/-!
Parameters that an expansion introduces. They have fixed names, and the owner's parameters are in
scope wherever they are declared. So no scope declares a name twice just if the owner declares none
of these names, neither the lifetime of borrowed input nor one of those that begin with underscores.
-/

namespace SlotSum

variable {schema : Schema} {options : Options} {plan : Plan} {implementation : Implementation}

/-- The names that a list of parameters declares. -/
def Generics.names (generics : Generics) : List String := generics.params.map GenericParam.name

namespace Implementation

/-- The names that each function declares for itself. -/
def introduced (implementation : Implementation) : List (List String) :=
  implementation.functions.map fun function => function.binders.map Binder.name

/-- The names in scope in the head of an implementation and in each of its functions. -/
def scopes (implementation : Implementation) : List (List String) :=
  let own := implementation.generics.names
  own :: implementation.introduced.map fun names => own ++ names

def IsClean (implementation : Implementation) : Prop :=
  ∀ scope ∈ implementation.scopes, scope.Nodup

theorem isClean_iff : implementation.IsClean ↔
    implementation.generics.names.Nodup ∧ ∀ names ∈ implementation.introduced,
      (implementation.generics.names ++ names).Nodup := by
  simp [IsClean, scopes]

theorem isClean_of_bare (bare : implementation.introduced.flatten = [])
    (distinct : implementation.generics.names.Nodup) : implementation.IsClean := by
  refine isClean_iff.mpr ⟨distinct, fun names member => ?_⟩
  rw [List.flatten_eq_nil_iff.mp bare names member, List.append_nil]
  exact distinct

theorem isClean_of_sole {name : String} (some_ : [name] ∈ implementation.introduced)
    (only : ∀ names ∈ implementation.introduced, names = [] ∨ names = [name]) :
    implementation.IsClean ↔
      implementation.generics.names.Nodup ∧ name ∉ implementation.generics.names := by
  have behind : (implementation.generics.names ++ [name]).Nodup ↔
      implementation.generics.names.Nodup ∧ name ∉ implementation.generics.names := by
    rw [(List.perm_append_singleton name _).nodup_iff, List.nodup_cons, and_comm]
  rw [isClean_iff]
  constructor
  · rintro ⟨-, each⟩
    exact behind.mp (each [name] some_)
  · intro clean
    refine ⟨clean.1, fun names member => ?_⟩
    rcases only names member with rfl | rfl
    · rw [List.append_nil]
      exact clean.1
    · exact behind.mpr clean

end Implementation

/-- The names that are introduced under some options, in whatever implementation. -/
def Options.introduced (options : Options) : List String :=
  "__Output" :: (if options.hash then ["__H"] else []) ++
    if options.serde then ["'de", "__S", "__D", "__A"] else []

theorem Options.mem_introduced {name : String} : name ∈ options.introduced ↔
    name = "__Output" ∨ (options.hash = true ∧ name = "__H") ∨
      (options.serde = true ∧ (name = "'de" ∨ name = "__S" ∨ name = "__D" ∨ name = "__A")) := by
  cases hash : options.hash <;> cases serde : options.serde <;>
    simp [Options.introduced, hash, serde]

namespace Schema

open Implementation

/-! ### The owner's own functions -/

theorem binders_of_part {request : Request} {function : Function}
    (member : function ∈ (schema.part plan request).functions) :
    function.binders = [] ∨ function.binders = [outputBinder] := by
  cases request with
  | constructor =>
      cases List.mem_singleton.mp member
      exact .inl rfl
  | factories =>
      obtain ⟨⟨slot, index⟩, -, rfl⟩ := List.mem_map.mp member
      exact .inl rfl
  | accessors =>
      obtain ⟨slot, -, member⟩ := List.mem_flatMap.mp member
      rcases List.mem_cons.mp member with rfl | member
      · exact .inl rfl
      · cases List.mem_singleton.mp member
        exact .inl rfl
  | dispatch =>
      have one : function = schema.mapFunction ∨ function = schema.visitFunction ∨
          function = schema.mapOrElseFunction ∨ function = schema.visitOrElseFunction := by
        simpa [part, Part.methods, dispatch] using member
      rcases one with rfl | rfl | rfl | rfl
      · exact .inr rfl
      · exact .inl rfl
      · exact .inr rfl
      · exact .inl rfl
  | _ => cases member

theorem mapFunction_mem (accepted : Plan.analyze schema options = .ok plan) :
    schema.mapFunction ∈ (schema.expansion plan).own.functions := by
  refine mem_ownFunctions.mpr ⟨.dispatch, ?_, List.mem_cons_self⟩
  rw [(Plan.requests_of_analyze accepted).1]
  simp [Plan.requestsOf]

theorem isClean_own (accepted : Plan.analyze schema options = .ok plan) :
    (schema.expansion plan).own.IsClean ↔
      schema.generics.names.Nodup ∧ "__Output" ∉ schema.generics.names := by
  refine isClean_of_sole (List.mem_map_of_mem (mapFunction_mem accepted)) ?_
  intro names member
  obtain ⟨function, own, rfl⟩ := List.mem_map.mp member
  obtain ⟨request, -, added⟩ := mem_ownFunctions.mp own
  rcases binders_of_part added with none | output
  · exact .inl (by rw [none]; rfl)
  · exact .inr (by rw [output]; rfl)

/-! ### Traits -/

theorem isClean_hashing : schema.hashing.IsClean ↔
    schema.generics.names.Nodup ∧ "__H" ∉ schema.generics.names :=
  isClean_of_sole (List.mem_singleton_self _) fun _ member => .inr (List.mem_singleton.mp member)

theorem isClean_serialization : schema.serialization.IsClean ↔
    schema.generics.names.Nodup ∧ "__S" ∉ schema.generics.names :=
  isClean_of_sole (List.mem_singleton_self _) fun _ member => .inr (List.mem_singleton.mp member)

theorem isClean_deserialization : schema.deserialization.IsClean ↔
    schema.readingGenerics.names.Nodup ∧ "__D" ∉ schema.readingGenerics.names :=
  isClean_of_sole (List.mem_singleton_self _) fun _ member => .inr (List.mem_singleton.mp member)

theorem isClean_visitor : schema.visitor.IsClean ↔
    schema.readingGenerics.names.Nodup ∧ "__A" ∉ schema.readingGenerics.names := by
  have introduced : schema.visitor.introduced = [[], ["__A"]] := rfl
  refine isClean_of_sole ?_ ?_
  · simp [introduced]
  · simp [introduced]

theorem names_readingGenerics :
    schema.readingGenerics.names = "'de" :: schema.generics.names := rfl

theorem isClean_of_fresh (accepted : Plan.analyze schema options = .ok plan)
    (distinct : schema.generics.names.Nodup)
    (fresh : ∀ name ∈ options.introduced, name ∉ schema.generics.names)
    (member : implementation ∈ schema.implementations plan) : implementation.IsClean := by
  have reading (asked : options.serde = true) {name : String}
      (one : name = "'de" ∨ name = "__S" ∨ name = "__D" ∨ name = "__A") :
      name ∉ schema.generics.names :=
    fresh name (Options.mem_introduced.mpr (.inr (.inr ⟨asked, one⟩)))
  have borrowed (asked : options.serde = true) : schema.readingGenerics.names.Nodup := by
    rw [names_readingGenerics, List.nodup_cons]
    exact ⟨reading asked (by decide), distinct⟩
  have apart (asked : options.serde = true) {name : String} (one : name = "__D" ∨ name = "__A") :
      name ∉ schema.readingGenerics.names := by
    rw [names_readingGenerics, List.mem_cons, not_or]
    exact ⟨by rcases one with rfl | rfl <;> decide, reading asked (.inr (.inr one))⟩
  rcases (mem_implementations accepted).mp member with rfl | member | ⟨asked, rfl⟩
  · exact (isClean_own accepted).mpr ⟨distinct, fresh _ (Options.mem_introduced.mpr (.inl rfl))⟩
  · rcases (mem_traits accepted).mp member with rfl | ⟨-, member⟩ | member | ⟨asked, member⟩
    · exact isClean_of_bare rfl distinct
    · obtain ⟨slot, index, rfl | rfl⟩ := mem_conversions member
      · exact isClean_of_bare rfl distinct
      · exact isClean_of_bare rfl distinct
    · rcases mem_equality.mp member with rfl | ⟨-, rfl⟩ | ⟨asked, rfl⟩
      · exact isClean_of_bare rfl distinct
      · exact isClean_of_bare rfl distinct
      · have free := fresh "__H" (Options.mem_introduced.mpr (.inr (.inl ⟨asked, rfl⟩)))
        exact isClean_hashing.mpr ⟨distinct, free⟩
    · rcases mem_wire.mp member with rfl | rfl
      · exact isClean_serialization.mpr ⟨distinct, reading asked (by decide)⟩
      · exact isClean_deserialization.mpr ⟨borrowed asked, apart asked (.inl rfl)⟩
  · exact isClean_visitor.mpr ⟨borrowed asked, apart asked (.inr rfl)⟩

theorem fresh_of_isClean (accepted : Plan.analyze schema options = .ok plan)
    (clean : ∀ implementation ∈ schema.implementations plan, implementation.IsClean) :
    ∀ name ∈ options.introduced, name ∉ schema.generics.names := by
  have trait (implementation : Implementation)
      (member : implementation ∈ (schema.expansion plan).implementations) :
      implementation.IsClean :=
    clean implementation ((mem_implementations accepted).mpr (.inr (.inl member)))
  intro name introduced declared
  -- each name is introduced in an implementation of its own, which shows that it is not declared
  rcases Options.mem_introduced.mp introduced with rfl | ⟨asked, rfl⟩ | ⟨asked, one⟩
  · have own := clean _ ((mem_implementations accepted).mpr (.inl rfl))
    exact ((isClean_own accepted).mp own).2 declared
  · have hashing := trait schema.hashing ((mem_traits accepted).mpr
      (.inr (.inr (.inl (mem_equality.mpr (.inr (.inr ⟨asked, rfl⟩)))))))
    exact (isClean_hashing.mp hashing).2 declared
  · have wire {implementation : Implementation} (member : implementation ∈ schema.wire) :
        implementation.IsClean :=
      trait implementation ((mem_traits accepted).mpr (.inr (.inr (.inr ⟨asked, member⟩))))
    have writing := isClean_serialization.mp (wire (mem_wire.mpr (.inl rfl)))
    have reading := isClean_deserialization.mp (wire (mem_wire.mpr (.inr rfl)))
    have visiting := isClean_visitor.mp
      (clean _ ((mem_implementations accepted).mpr (.inr (.inr ⟨asked, rfl⟩))))
    rw [names_readingGenerics, List.nodup_cons] at reading
    rcases one with rfl | rfl | rfl | rfl
    · exact reading.1.1 declared
    · exact writing.2 declared
    · exact reading.2 (List.mem_cons_of_mem _ declared)
    · exact visiting.2 (List.mem_cons_of_mem _ declared)

/-- No scope of an expansion declares a name twice just if the owner's parameters differ among each
other and from all that are introduced. -/
theorem scopes_nodup_iff (accepted : Plan.analyze schema options = .ok plan) :
    (∀ implementation ∈ schema.implementations plan,
      ∀ scope ∈ implementation.scopes, scope.Nodup) ↔
      schema.generics.names.Nodup ∧
        ∀ name ∈ options.introduced, name ∉ schema.generics.names := by
  constructor
  · intro clean
    have own := clean _ ((mem_implementations accepted).mpr (.inl rfl))
    exact ⟨((isClean_own accepted).mp own).1, fresh_of_isClean accepted clean⟩
  · rintro ⟨distinct, fresh⟩ implementation member
    exact isClean_of_fresh accepted distinct fresh member

/-- A text that is borrowed for a lifetime and a value of some type. -/
def tagged (lifetime param : String) : Schema :=
  { owner := ⟨"Tagged", .callSite⟩, visibility := .pub
    generics := ⟨[.lifetime [] lifetime [], .type [] param [] []], false, [], false⟩
    slots :=
      [ ⟨⟨"text", .callSite⟩, .reference (some lifetime) false (.path false [.mk "str" .none])⟩,
        ⟨⟨"value", .callSite⟩, .path false [.mk param .none]⟩ ]
    others := [], derives := [], constructor := none }

theorem scopes_nodup_iff_tagged :
    ∃ plan, Plan.analyze (tagged "'a" "T") ⟨true, true, false⟩ = .ok plan ∧
      ∀ implementation ∈ (tagged "'a" "T").implementations plan,
        ∀ scope ∈ implementation.scopes, scope.Nodup := by
  obtain ⟨plan, accepted⟩ : ∃ plan, Plan.analyze (tagged "'a" "T") ⟨true, true, false⟩ = .ok plan :=
    ⟨_, rfl⟩
  exact ⟨plan, accepted, (scopes_nodup_iff accepted).mpr ⟨by decide, by decide⟩⟩

/-- An owner with the lifetime of borrowed input has it twice where it is read, and an owner with
the parameter of a dispatch has that twice. -/
theorem scopes_nodup_shadowed :
    (∃ plan, Plan.analyze (tagged "'de" "T") ⟨true, false, false⟩ = .ok plan ∧
      (tagged "'de" "T").deserialization ∈ (tagged "'de" "T").implementations plan ∧
      (tagged "'de" "T").visitor ∈ (tagged "'de" "T").implementations plan ∧
      (tagged "'de" "T").deserialization.generics.names = ["'de", "'de", "T"] ∧
      (tagged "'de" "T").visitor.generics.names = ["'de", "'de", "T"]) ∧
    ∃ plan, Plan.analyze (tagged "'a" "__Output") .default = .ok plan ∧
      ["'a", "__Output", "__Output"] ∈
        ((tagged "'a" "__Output").expansion plan).own.scopes := by
  constructor
  · obtain ⟨plan, accepted⟩ :
        ∃ plan, Plan.analyze (tagged "'de" "T") ⟨true, false, false⟩ = .ok plan := ⟨_, rfl⟩
    have reads := (mem_traits accepted).mpr (.inr (.inr (.inr ⟨rfl, mem_wire.mpr (.inr rfl)⟩)))
    refine ⟨plan, accepted, ?_, ?_, rfl, rfl⟩
    · exact (mem_implementations accepted).mpr (.inr (.inl reads))
    · exact (mem_implementations accepted).mpr (.inr (.inr ⟨rfl, rfl⟩))
  · obtain ⟨plan, accepted⟩ : ∃ plan, Plan.analyze (tagged "'a" "__Output") .default = .ok plan :=
      ⟨_, rfl⟩
    refine ⟨plan, accepted, List.mem_cons_of_mem _ ?_⟩
    have introduced := List.mem_map_of_mem (f := fun function : Function =>
      function.binders.map Binder.name) (mapFunction_mem accepted)
    exact List.mem_map_of_mem (f := fun names : List String => _ ++ names) introduced

end Schema

end SlotSum
