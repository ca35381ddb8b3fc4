import SlotSum.Proofs.Wire.Accepted

/-!
Round trips through the wire. A value is read back from its own text as the value that holds only
its first occupied slot, and what has once been read does not change any more.
-/

namespace SlotSum

/-! ### Types -/

/-- The slots of a named type that is declared somewhere. -/
def RecordShape.IsDeclared (record : RecordShape) : Prop :=
  ∃ declaration schema, Schema.extract declaration = .ok (some schema) ∧
    record.keys = schema.keys ∧ record.shapes.length = schema.slots.length

theorem RecordShape.IsDeclared.isDistinct {record : RecordShape} (declared : record.IsDeclared) :
    record.IsDistinct := by
  obtain ⟨declaration, schema, extracted, keys, lengths⟩ := declared
  exact ⟨keys ▸ Schema.keys_nodup extracted, by rw [keys, lengths, Schema.keys, List.length_map]⟩

/-! ### Payloads of any type -/

namespace Slots

variable {keys : List String} {encode : α → Json} {decode : Nat → Json → Reading α}
  {slots : Slots α}

/-- Slots are read from the map that they are written to as what is left of them, as long as the
first payload is read from what it is written to. -/
theorem readEntries_written (distinct : keys.Nodup) (fits : slots.length = keys.length)
    (own : ∀ index payload, slots.IsFirst index payload →
      decode index (encode payload) = .ok payload) :
    ∃ entries, written keys (slots.transform encode) = .object entries true ∧
      readEntries keys decode entries true = .ok slots.firstOnly := by
  rcases slots.isFirst_or_allEmpty with ⟨index, payload, first⟩ | empty
  · obtain ⟨key, keyed⟩ := first.exists_getElem? fits.symm
    refine ⟨_, written_of_isFirst (transform_isFirst encode first) keyed, ?_⟩
    rw [readEntries_sole distinct keyed (own index payload first), firstOnly_of_isFirst first, fits]
  · refine ⟨[], written_of_allEmpty keys (transform_allEmpty encode empty), ?_⟩
    rw [firstOnly_of_allEmpty empty, fits]
    rfl

theorem firstOnly_of_readEntries {entries : List Entry} {closed : Bool}
    (accepted : readEntries keys decode entries closed = .ok slots) :
    slots.length = keys.length ∧ slots.firstOnly = slots := by
  rcases readEntries_ok accepted with rfl | ⟨index, json, payload, inside, -, rfl⟩
  · exact ⟨length_vacant _, firstOnly_vacant _⟩
  · exact ⟨length_only .., firstOnly_only payload inside⟩

/-- The map of slots is scanned from its text, as long as the payload in it is. -/
theorem scan_written (fits : slots.length = keys.length)
    (faithful : ∀ index payload, slots.IsFirst index payload → (encode payload).IsFaithful) :
    Document.scan (written keys (slots.transform encode)).write =
      ⟨written keys (slots.transform encode), true⟩ := by
  apply Document.scan_write
  rcases slots.isFirst_or_allEmpty with ⟨index, payload, first⟩ | empty
  · obtain ⟨key, keyed⟩ := first.exists_getElem? fits.symm
    rw [written_of_isFirst (transform_isFirst encode first) keyed]
    exact ⟨⟨⟨rfl, faithful index payload first⟩, trivial⟩, rfl⟩
  · rw [written_of_allEmpty keys (transform_allEmpty encode empty)]
    exact ⟨trivial, rfl⟩

end Slots

/-! ### Reading -/

namespace Value

variable {shapes : Shapes} {record : RecordShape} {initial : β}

theorem read_ok {text : String} {value : Value Payload β}
    (accepted : Value.read shapes record initial text = .ok value) :
    value.extra = initial ∧ ∃ json, Slots.ofJson shapes record json = .ok value.slots := by
  obtain ⟨slots, read, same⟩ := map_eq_ok.mp accepted
  obtain ⟨slots', own, ended⟩ := bind_eq_ok.mp read
  split at ended
  · cases ended
    cases same
    exact ⟨rfl, _, own⟩
  · cases ended

theorem read_write {json : Json} {slots : Slots Payload} (faithful : json.IsFaithful)
    (own : Slots.ofJson shapes record json = .ok slots) :
    Value.read shapes record initial json.write = .ok ⟨slots, initial⟩ := by
  rw [Value.read, Document.scan_write faithful, Document.read]
  simp [own, Except.map, bind, Except.bind]

theorem read_of_allEmpty {value : Value Payload β} (empty : value.slots.AllEmpty)
    (fits : value.slots.length = record.keys.length) :
    Value.read shapes record initial (value.text record.keys) =
      .ok ⟨value.slots.firstOnly, initial⟩ := by
  rw [Value.text, Slots.firstOnly_of_allEmpty empty, Slots.json_of_allEmpty _ empty, fits]
  exact read_write ⟨trivial, rfl⟩ (Reader.slots_vacant _)

section

variable (declared : ∀ name record, shapes name = some record → record.IsDistinct)
  (distinct : record.IsDistinct)
include declared distinct

theorem read_of_isFirst {value : Value Payload β} {index : Nat} {payload : Payload}
    {shape : Shape} (first : value.slots.IsFirst index payload)
    (fits : value.slots.length = record.keys.length)
    (shaped : record.shapes[index]? = some shape) (settled : Settled shapes shape payload)
    (faithful : payload.IsFaithful) (shallow : payload.json.brackets < Reader.depthLimit) :
    Value.read shapes record initial (value.text record.keys) =
      .ok ⟨value.slots.firstOnly, initial⟩ := by
  obtain ⟨key, keyed⟩ := first.exists_getElem? fits.symm
  have own := settled.read declared faithful _ (Nat.le_sub_one_of_lt shallow)
  rw [Value.text, Slots.firstOnly_of_isFirst first, Slots.json_of_isFirst first keyed]
  refine read_write ⟨⟨⟨rfl, payload.isFaithful_json faithful⟩, trivial⟩, rfl⟩ ?_
  rw [Slots.ofJson, Reader.slots_only distinct keyed shaped own, fits]

/-- What has been read from some text is read from its own text again. -/
theorem read_text_of_read {text : String} {value : Value Payload β}
    (accepted : Value.read shapes record initial text = .ok value)
    (faithful : ∀ index payload, value.slots.IsFirst index payload → payload.IsFaithful) :
    Value.read shapes record initial (value.text record.keys) = .ok value := by
  obtain ⟨slots, extra⟩ := value
  obtain ⟨rfl, json, own⟩ := read_ok accepted
  obtain ⟨read, same, vacant | ⟨index, shape, json, payload, inside, shaped, own, only⟩⟩ :=
    Reader.slots_ok own
  · subst vacant
    have empty : (Slots.vacant record.keys.length : Slots Payload).AllEmpty :=
      Slots.vacant_allEmpty _
    rw [read_of_allEmpty empty (Slots.length_vacant _), Slots.firstOnly_of_allEmpty empty,
      Slots.length_vacant]
  · subst only
    obtain rfl := Option.some.inj same
    have first := Slots.only_isFirst payload inside
    have faithful := faithful index payload first
    obtain ⟨settled, shallow⟩ := Reader.settles_nested _ shape json payload own faithful
    rw [read_of_isFirst declared distinct first (Slots.length_only ..) shaped settled faithful
      (Nat.lt_of_le_of_lt shallow (by decide)), Slots.firstOnly_of_isFirst first,
      Slots.length_only]

end

/-- What is kept of the values of a type through their texts. -/
structure RoundTrips (shapes : Shapes) (schema : Schema) (record : RecordShape) (initial : β) :
    Prop where
  /-- A value is read from its text as what is left of it if only its first payload is kept, which
  has to come back from its own wire form however deep that may be. -/
  back : ∀ value : Value Payload β, value.slots.length = schema.slots.length →
    (∀ index payload, value.slots.IsFirst index payload → payload.IsFaithful ∧
      ∃ shape depth, record.shapes[index]? = some shape ∧
        Reader.nested shapes depth shape payload.json = .ok payload) →
    (value.slots.json record.keys).brackets ≤ Reader.depthLimit →
    Value.read shapes record initial (value.text record.keys) = .ok ⟨value.slots.firstOnly, initial⟩
  /-- A value that was read is read from its own text again. -/
  again : ∀ (text : String) (value : Value Payload β),
    Value.read shapes record initial text = .ok value →
    (∀ index payload, value.slots.IsFirst index payload → payload.IsFaithful) →
    Value.read shapes record initial (value.text record.keys) = .ok value
  /-- Payloads of any type, each with a wire form that it comes back from. -/
  backAny : ∀ (α : Type) (encode : α → Json) (decode : Nat → Json → Reading α) (slots : Slots α),
    slots.length = schema.slots.length →
    (∀ index payload, slots.IsFirst index payload →
      (encode payload).IsFaithful ∧ decode index (encode payload) = .ok payload) →
    ∃ entries,
      Document.scan (Slots.written record.keys (slots.transform encode)).write =
        ⟨.object entries true, true⟩ ∧
      Slots.readEntries record.keys decode entries true = .ok slots.firstOnly
  againAny : ∀ (α : Type) (encode : α → Json) (decode : Nat → Json → Reading α) (slots : Slots α)
    (entries : List Entry) (closed : Bool),
    Slots.readEntries record.keys decode entries closed = .ok slots →
    (∀ index payload, slots.IsFirst index payload →
      (encode payload).IsFaithful ∧ decode index (encode payload) = .ok payload) →
    ∃ entries',
      Document.scan (Slots.written record.keys (slots.transform encode)).write =
        ⟨.object entries' true, true⟩ ∧
      Slots.readEntries record.keys decode entries' true = .ok slots
  /-- The key of a slot leads to the factory of the same slot. -/
  keyed : ∀ index slot, schema.slots[index]? = some slot →
    record.keys.idxOf? slot.key = some index ∧
    schema.keyFactories.lookup slot.key = some (slot.method "from") ∧
    (schema.factories.find? fun function => function.name == slot.method "from") =
      some (schema.factory slot index)

/-- Every value of every type comes back from its own text as the value that holds only its first
occupied slot, with the same payload, and its other fields as the constructor makes them. -/
theorem read_text {declaration : Declaration} {schema : Schema}
    (extracted : Schema.extract declaration = .ok (some schema))
    (keys : record.keys = schema.keys) (lengths : record.shapes.length = schema.slots.length)
    (declared : ∀ name record, shapes name = some record → record.IsDeclared) :
    RoundTrips shapes schema record initial := by
  have own : record.IsDeclared := ⟨declaration, schema, extracted, keys, lengths⟩
  have distinct (name : String) (record : RecordShape) (found : shapes name = some record) :
      record.IsDistinct := (declared name record found).isDistinct
  have count : schema.slots.length = record.keys.length := by
    rw [← lengths, own.isDistinct.shapes]
  refine
    { back := ?_
      again := fun text value => read_text_of_read distinct own.isDistinct
      backAny := ?_
      againAny := ?_
      keyed := fun index slot found => keys ▸ Schema.factory_of_key extracted found }
  · intro value fits back shallow
    rcases value.slots.isFirst_or_allEmpty with ⟨index, payload, first⟩ | empty
    · obtain ⟨faithful, shape, depth, shaped, own'⟩ := back index payload first
      have settled := (settled_iff distinct faithful).mpr ⟨depth, own'⟩
      obtain ⟨key, keyed⟩ := first.exists_getElem? (fits.trans count).symm
      rw [Slots.json_of_isFirst first keyed] at shallow
      simp only [Json.brackets, Json.entriesBrackets] at shallow
      exact read_of_isFirst distinct own.isDistinct first (fits.trans count) shaped settled
        faithful (by omega)
    · exact read_of_allEmpty empty (fits.trans count)
  · intro α encode decode slots fits back
    obtain ⟨entries, written, read⟩ := Slots.readEntries_written own.isDistinct.keys
      (fits.trans count) fun index payload first => (back index payload first).2
    refine ⟨entries, ?_, read⟩
    rw [Slots.scan_written (fits.trans count) fun index payload first =>
      (back index payload first).1, written]
  · intro α encode decode slots entries closed accepted back
    obtain ⟨fits, kept⟩ := Slots.firstOnly_of_readEntries accepted
    obtain ⟨entries', written, read⟩ := Slots.readEntries_written own.isDistinct.keys
      fits fun index payload first => (back index payload first).2
    refine ⟨entries', ?_, kept ▸ read⟩
    rw [Slots.scan_written fits fun index payload first => (back index payload first).1, written]

/-- A number, or the negation of another expression. -/
def expression : Declaration :=
  .ofStruct
    { attributes := [], visibility := .pub, name := ⟨"Expr", .callSite⟩, generics := .empty
      fields := .named
        [ ⟨[], .inherited, some ⟨"literal", .callSite⟩,
            .path false
              [.mk "Option" (.angle false [.type (.path false [.mk "i64" .none])] false)]⟩,
          ⟨[], .inherited, some ⟨"r#negated", .callSite⟩,
            .path false
              [.mk "Option" (.angle false
                [.type (.path false
                  [.mk "Box" (.angle false [.type (.path false [.mk "Expr" .none])] false)])]
                false)]⟩ ]
        false }

theorem extract_expression : ∃ schema, Schema.extract expression = .ok (some schema) ∧
    schema.keys = ["literal", "negated"] ∧ schema.slots.length = 2 := by
  have computed : (Schema.extract expression).toOption.join.map
      (fun schema => (schema.keys, schema.slots.length)) = some (["literal", "negated"], 2) := by
    decide +kernel
  obtain ⟨schema, found, facts⟩ := Option.map_eq_some_iff.mp computed
  have extracted := toOption_eq_some.mp (Option.join_eq_some_iff.mp found)
  exact ⟨schema, extracted, Prod.mk.inj facts⟩

def expressionShape : RecordShape :=
  ⟨["literal", "negated"], [.integer ⟨true, 8⟩, .record "Expr"]⟩

def expressionShapes : Shapes := fun name => if name = "Expr" then some expressionShape else none

def numberPayload (value : Int) : Payload :=
  .record ["literal", "negated"] [some (.integer ⟨true, 8⟩ value), none]

/-- A number next to a negated number, and a number that is negated twice. -/
theorem read_text_expression :
    let both : Value Payload Unit := ⟨[some (.integer ⟨true, 8⟩ 7), some (numberPayload 1)], ()⟩
    let twice : Value Payload Unit :=
      ⟨[none, some (.record ["literal", "negated"] [none, some (numberPayload (-5))])], ()⟩
    Value.read expressionShapes expressionShape () (both.text expressionShape.keys) =
        .ok ⟨[some (.integer ⟨true, 8⟩ 7), none], ()⟩ ∧
      Value.read expressionShapes expressionShape () (twice.text expressionShape.keys) =
        .ok twice := by
  obtain ⟨schema, extracted, keys, count⟩ := extract_expression
  have declared (name : String) (record : RecordShape)
      (found : expressionShapes name = some record) : record.IsDeclared := by
    unfold expressionShapes at found
    split at found
    · cases found
      exact ⟨expression, schema, extracted, keys.symm, count.symm⟩
    · cases found
  have trips : RoundTrips expressionShapes schema expressionShape () :=
    read_text extracted keys.symm count.symm declared
  refine ⟨trips.back ⟨_, ()⟩ (by rw [count]; rfl) ?_ (by decide),
    trips.back ⟨_, ()⟩ (by rw [count]; rfl) ?_ (by decide)⟩
  · intro index payload first
    cases first with
    | here =>
        exact ⟨Number.isFaithful_integer (by decide) (by decide), .integer ⟨true, 8⟩, 0, rfl, rfl⟩
  · intro index payload first
    cases first with
    | there first =>
        cases first with
        | here =>
            exact ⟨⟨⟨Number.isFaithful_integer (by decide) (by decide), trivial⟩, trivial⟩,
              .record "Expr", 2, rfl, rfl⟩

end Value

end SlotSum
