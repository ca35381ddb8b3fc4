import Mathlib.Data.List.Nodup
import SlotSum.Proofs.Expansion.Implementations
import SlotSum.Proofs.Schema.Extraction
import SlotSum.Proofs.Schema.Keys

/-!
The names that an expansion makes up. Only stems are looked at when a structure is read, but stems
come of keys and keys of the names of fields, so these differ as well; and a verb in front of a stem
tells apart functions for one slot from each other and from the functions that are always there.
-/

namespace SlotSum

variable {declaration : Declaration} {schema : Schema} {options : Options} {plan : Plan}

/-! ### Verbs -/

theorem Slot.toList_method (slot : Slot) (verb : String) :
    (slot.method verb).toList = verb.toList ++ '_' :: slot.stem.toList := by
  simp [method, String.toList_append]

theorem ne_of_head? {left right : String} (differ : left.toList.head? ≠ right.toList.head?) :
    left ≠ right := by
  rintro rfl
  exact differ rfl

namespace Schema

theorem methods_nodup (stems : (schema.slots.map Slot.stem).Nodup) (verb : String) :
    (schema.slots.map fun slot => slot.method verb).Nodup := by
  rw [List.Nodup, List.pairwise_map]
  exact (List.pairwise_map.mp stems).imp fun apart same => apart (Slot.method_inj.mp same)

theorem accessorNames_nodup (stems : (schema.slots.map Slot.stem).Nodup) :
    (schema.slots.flatMap fun slot => [slot.method "is", slot.method "as"]).Nodup := by
  have verbs (first second : Slot) : first.method "is" ≠ second.method "as" :=
    ne_of_head? (by simp [Slot.toList_method])
  rw [List.nodup_flatMap]
  refine ⟨fun slot _ => by simp [verbs],
    (List.pairwise_map.mp stems).imp fun {first second} apart => ?_⟩
  simp [Function.onFun, Slot.method_inj, apart.symm, verbs, (verbs _ _).symm]

/-! ### Functions of the owner -/

/-- The names of the owner's functions besides the constructor, in the order in which they stand. -/
def functionNames (schema : Schema) : List String :=
  (schema.slots.map fun slot => slot.method "from") ++
    (schema.slots.flatMap fun slot => [slot.method "is", slot.method "as"]) ++
    ["map", "visit", "map_or_else", "visit_or_else"]

theorem ownFunctions_eq (accepted : Plan.analyze schema options = .ok plan) :
    (schema.expansion plan).own.functions =
      (if plan.constructor = .generate then [schema.constructorFunction] else []) ++
        (schema.factories ++ schema.accessors ++ schema.dispatch) := by
  have collected : (schema.expansion plan).own.functions =
      plan.requests.flatMap fun request => (schema.part plan request).functions := by
    simp only [expansion, expansionFor, Implementation.functions, List.flatMap_map,
      List.filterMap_map]
    exact List.filterMap_some
  rw [collected, (Plan.requests_of_analyze accepted).1, Plan.requestsOf]
  cases plan.constructor <;> cases plan.conversions.any fun each => each.into || each.outOf <;>
    cases options.serde <;> simp [part, Part.methods, Part.traits]

theorem names_ownFunctions (accepted : Plan.analyze schema options = .ok plan) :
    (schema.expansion plan).own.functions.map Function.name =
      (if plan.constructor = .generate then ["new"] else []) ++ schema.functionNames := by
  have factories : schema.factories.map Function.name =
      schema.slots.map fun slot => slot.method "from" := by
    conv_rhs => rw [← List.zipIdx_map_fst 0 schema.slots]
    simp only [Schema.factories, List.map_map]
    rfl
  have accessors : schema.accessors.map Function.name =
      schema.slots.flatMap fun slot => [slot.method "is", slot.method "as"] :=
    List.map_flatMap
  have dispatch : schema.dispatch.map Function.name =
      ["map", "visit", "map_or_else", "visit_or_else"] := rfl
  have constructor : (if plan.constructor = .generate then [schema.constructorFunction] else []).map
      Function.name = if plan.constructor = .generate then ["new"] else [] := by
    split <;> rfl
  rw [ownFunctions_eq accepted, List.map_append, List.map_append, List.map_append, constructor,
    factories, accessors, dispatch, functionNames]

/-- Functions of different kinds begin with different letters. -/
theorem functionNames_nodup (stems : (schema.slots.map Slot.stem).Nodup) :
    ("new" :: schema.functionNames).Nodup := by
  rw [functionNames, List.nodup_cons, List.nodup_append, List.nodup_append]
  refine ⟨?_, ⟨methods_nodup stems "from", accessorNames_nodup stems, ?_⟩, by decide, ?_⟩
  · simp only [List.mem_append, List.mem_map, List.mem_flatMap, List.mem_cons, List.not_mem_nil,
      or_false]
    rintro ((⟨slot, -, same⟩ | ⟨slot, -, same | same⟩) | same)
    · exact ne_of_head? (by simp [Slot.toList_method]) same
    · exact ne_of_head? (by simp [Slot.toList_method]) same
    · exact ne_of_head? (by simp [Slot.toList_method]) same
    · simp at same
  · simp only [List.mem_map, List.mem_flatMap, List.mem_cons, List.not_mem_nil, or_false]
    rintro _ ⟨slot, -, rfl⟩ _ ⟨other, -, rfl | rfl⟩ <;>
      exact ne_of_head? (by simp [Slot.toList_method])
  · simp only [List.mem_append, List.mem_map, List.mem_flatMap, List.mem_cons, List.not_mem_nil,
      or_false]
    rintro _ (⟨slot, -, rfl⟩ | ⟨slot, -, rfl | rfl⟩) _ (rfl | rfl | rfl | rfl) <;>
      exact ne_of_head? (by simp [Slot.toList_method])

/-! ### Handlers -/

theorem parameters_dispatch {function : Function} (member : function ∈ schema.dispatch) :
    function.parameters.map Parameter.name = (schema.slots.map fun slot => slot.method "on") ∨
      function.parameters.map Parameter.name =
        "default" :: schema.slots.map fun slot => slot.method "on" := by
  simp only [dispatch, List.mem_cons, List.not_mem_nil, or_false] at member
  rcases member with rfl | rfl | rfl | rfl
  · exact .inl List.map_map
  · exact .inl List.map_map
  · exact .inr (congrArg _ List.map_map)
  · exact .inr (congrArg _ List.map_map)

theorem handlers_nodup (stems : (schema.slots.map Slot.stem).Nodup) :
    ("default" :: schema.slots.map fun slot => slot.method "on").Nodup := by
  refine List.nodup_cons.mpr ⟨fun member => ?_, methods_nodup stems "on"⟩
  obtain ⟨slot, -, same⟩ := List.mem_map.mp member
  exact ne_of_head? (by simp [Slot.toList_method]) same

/-! ### Slots but one -/

/-- What an arm of the equality asks of the slots besides its own: that they are vacant, in either
value. -/
def bothVacant (slots : List Slot) : List Tree :=
  let vacancies := slots.map fun slot =>
    Tree.seq
      [ callOf (Tree.seq [slot.of "self", ".", "is_none"]) [], "&&",
        callOf (Tree.seq [slot.of "other", ".", "is_none"]) [] ]
  if vacancies.isEmpty then "true" else Tree.seq (vacancies.intersperse [.leaf "&&" false])

theorem filter_otherNames {slots : List Slot}
    (distinct : (slots.map fun slot => slot.name.text).Nodup) {index : Nat} {slot : Slot}
    (found : slots[index]? = some slot) :
    (slots.filter fun other => other.name.text != slot.name.text) = slots.eraseIdx index := by
  obtain ⟨inside, rfl⟩ := List.getElem?_eq_some_iff.mp found
  rw [List.Nodup, List.pairwise_map, List.pairwise_iff_getElem] at distinct
  have apart : ∀ place (bound : place < slots.length), place ≠ index →
      slots[place].name.text ≠ slots[index].name.text := by
    intro place bound other
    rcases Nat.lt_or_gt_of_ne other with before | after
    · exact distinct place index bound inside before
    · exact (distinct index place inside bound after).symm
  have before : ∀ other ∈ slots.take index,
      (other.name.text != slots[index].name.text) = true := by
    intro other taken
    obtain ⟨place, bound, rfl⟩ := List.mem_take_iff_getElem.mp taken
    exact bne_iff_ne.mpr (apart place (by omega) (by omega))
  have after : ∀ other ∈ slots.drop (index + 1),
      (other.name.text != slots[index].name.text) = true := by
    intro other dropped
    obtain ⟨place, bound, rfl⟩ := List.mem_drop_iff_getElem.mp dropped
    exact bne_iff_ne.mpr (apart (index + 1 + place) (by omega) (by omega))
  calc slots.filter (fun other => other.name.text != slots[index].name.text)
      = (slots.take index ++ slots[index] :: slots.drop (index + 1)).filter
          fun other => other.name.text != slots[index].name.text := by
        rw [List.getElem_cons_drop, List.take_append_drop]
    _ = slots.take index ++ slots.drop (index + 1) := by
        rw [List.filter_append, List.filter_eq_self.mpr before,
          List.filter_cons_of_neg (by simp), List.filter_eq_self.mpr after]
    _ = slots.eraseIdx index := (List.eraseIdx_eq_take_drop_succ slots index).symm

theorem fieldNames_nodup {slots : List Slot} (stems : (slots.map Slot.stem).Nodup) :
    (slots.map fun slot => slot.name.text).Nodup := by
  rw [List.Nodup, List.pairwise_map] at stems ⊢
  refine stems.imp fun apart same => apart (Slot.stem_of_key ?_)
  rw [Slot.key, Slot.key, same]

/-- All names in an expansion that are made from the slots of a schema differ: the fields, the keys
and the stems; the functions of the owner, the constructor among them whoever writes it; and the
handlers of each dispatch. So an arm of the equality asks all slots but its own to be vacant. -/
theorem names_distinct (extracted : extract declaration = .ok (some schema)) :
    (schema.slots.map fun slot => slot.name.text).Nodup ∧ schema.keys.Nodup ∧
      (schema.slots.map Slot.stem).Nodup ∧
      (∀ options plan, Plan.analyze schema options = .ok plan →
        (schema.expansion plan).own.functions.map Function.name =
          (if plan.constructor = .generate then ["new"] else []) ++ schema.functionNames) ∧
      ("new" :: schema.functionNames).Nodup ∧
      (∀ options plan, Plan.analyze schema options = .ok plan →
        ((schema.expansion plan).own.functions.map Function.name).Nodup) ∧
      ("default" :: schema.slots.map fun slot => slot.method "on").Nodup ∧
      (∀ function ∈ schema.dispatch, (function.parameters.map Parameter.name).Nodup) ∧
      ∀ index slot, schema.slots[index]? = some slot →
        (schema.slots.filter fun other => other.name.text != slot.name.text) =
          schema.slots.eraseIdx index ∧
        (schema.slots.eraseIdx index).length + 1 = schema.slots.length ∧
        schema.othersVacant slot = bothVacant (schema.slots.eraseIdx index) := by
  have stems := stems_of_extract extracted
  have fields := fieldNames_nodup stems
  have functions := functionNames_nodup stems
  have handlers := handlers_nodup stems
  refine ⟨fields, keys_nodup extracted, stems, fun options plan => names_ownFunctions, functions,
    fun options plan accepted => ?_, handlers, fun function member => ?_,
    fun index slot found => ?_⟩
  · rw [names_ownFunctions accepted]
    cases plan.constructor with
    | generate => exact functions
    | handWritten => exact functions.of_cons
  · rcases parameters_dispatch member with names | names
    · rw [names]
      exact handlers.of_cons
    · rw [names]
      exact handlers
  · have others := filter_otherNames fields found
    refine ⟨others, List.length_eraseIdx_add_one (List.getElem?_eq_some_iff.mp found).1, ?_⟩
    rw [othersVacant, others, bothVacant]

theorem names_distinct_record :
    ∃ schema plan,
      extract (.ofStruct (record [("_a", []), ("r#type", [])])) = .ok (some schema) ∧
      Plan.analyze schema .default = .ok plan ∧
      (schema.expansion plan).own.functions.map Function.name =
        ["new", "from_a", "from_type", "is_a", "as_a", "is_type", "as_type", "map", "visit",
          "map_or_else", "visit_or_else"] ∧
      ((schema.expansion plan).own.functions.map Function.name).Nodup ∧
      ∀ index slot, schema.slots[index]? = some slot →
        schema.othersVacant slot = bothVacant (schema.slots.eraseIdx index) := by
  have names : (extract (.ofStruct (record [("_a", []), ("r#type", [])]))).toOption.join.bind
      (fun schema => (Plan.analyze schema .default).toOption.map fun plan =>
        (schema.expansion plan).own.functions.map Function.name) =
      some ["new", "from_a", "from_type", "is_a", "as_a", "is_type", "as_type", "map", "visit",
        "map_or_else", "visit_or_else"] := by
    decide +kernel
  obtain ⟨schema, found, planned⟩ := Option.bind_eq_some_iff.mp names
  obtain ⟨plan, accepted, names⟩ := Option.map_eq_some_iff.mp planned
  have extracted := toOption_eq_some.mp (Option.join_eq_some_iff.mp found)
  have accepted := toOption_eq_some.mp accepted
  obtain ⟨-, -, -, -, -, functions, -, -, others⟩ := names_distinct extracted
  exact ⟨schema, plan, extracted, accepted, names, functions _ _ accepted,
    fun index slot found => (others index slot found).2.2⟩

end Schema

end SlotSum
