import SlotSum.Proofs.Wire.Settled

/-!
How deep a payload may nest. Two readers of what stands in brackets make readers of payloads that
agree as far as they do; so where a text is shallow a greater depth makes no difference, and where
it is not a greater depth only turns faults into something else.
-/

namespace SlotSum

/-- A relation of readings that each further step keeps. -/
structure Agreement where
  Holds {α : Type} : Reading α → Reading α → Prop
  refl {α : Type} (reading : Reading α) : Holds reading reading
  bind {α β : Type} {reading reading' : Reading α} {next next' : α → Reading β} :
    Holds reading reading' → (∀ found, Holds (next found) (next' found)) →
      Holds (reading >>= next) (reading' >>= next')

namespace Agreement

def equal : Agreement where
  Holds := Eq
  refl _ := rfl
  bind same each := by rw [same, funext each]

/-- The second reading goes on where the first one meets a fault. -/
def further : Agreement where
  Holds reading reading' := reading = .error .malformed ∨ reading' = reading
  refl _ := .inr rfl
  bind := by
    rintro α β reading reading' next next' (rfl | rfl) each
    · exact .inl rfl
    · cases reading' with
      | error rejection => exact .inr rfl
      | ok found => exact each found

/-- The readers agree on what stands in the brackets of a value, unless there are none or the first
one may not go there. -/
inductive Below (agreement : Agreement) (json : Json) : Option Reader → Option Reader → Prop where
  | flat {below below' : Option Reader} (flat : json.brackets = 0) :
    Below agreement json below below'
  | closed {below' : Option Reader}
    (fault : ∀ {α : Type} (reading : Reading α), agreement.Holds (.error .malformed) reading) :
    Below agreement json none below'
  | deeper {read read' : Reader}
    (each : ∀ inner, inner.brackets < json.brackets →
      ∀ shape, agreement.Holds (read shape inner) (read' shape inner)) :
    Below agreement json (some read) (some read')

variable (agreement : Agreement)

theorem map {α β : Type} {reading reading' : Reading α} (change : α → β)
    (holds : agreement.Holds reading reading') :
    agreement.Holds (reading.map change) (reading'.map change) := by
  have step (reading : Reading α) : reading.map change = reading >>= fun found => .ok (change found) := by
    cases reading <;> rfl
  rw [step, step]
  exact agreement.bind holds fun found => agreement.refl _

theorem readEntries {α : Type} {keys : List String} {read read' : Nat → Json → Reading α}
    {entries : List Entry} {closed : Bool}
    (each : ∀ entry ∈ entries, ∀ index,
      agreement.Holds (read index entry.value) (read' index entry.value)) :
    agreement.Holds (Slots.readEntries keys read entries closed)
      (Slots.readEntries keys read' entries closed) := by
  cases entries with
  | nil => exact agreement.refl _
  | cons entry rest =>
      simp only [Slots.readEntries]
      split
      · exact agreement.refl _
      · split
        · exact agreement.refl _
        · rename_i index _
          exact agreement.bind (each entry (.head _) index) fun payload => agreement.refl _

theorem items {read read' : Json → Reading Payload} {values : List Json} {closed : Bool}
    (each : ∀ value ∈ values, agreement.Holds (read value) (read' value)) :
    agreement.Holds (Reader.items read values closed) (Reader.items read' values closed) := by
  induction values with
  | nil => exact agreement.refl _
  | cons first rest ih =>
      rw [List.forall_mem_cons] at each
      exact agreement.bind each.1 fun payload =>
        agreement.bind (ih each.2) fun others => agreement.refl _

theorem pair {first first' second second' : Json → Reading Payload} {values : List Json}
    {closed : Bool} (each : ∀ value ∈ values, agreement.Holds (first value) (first' value))
    (each' : ∀ value ∈ values, agreement.Holds (second value) (second' value)) :
    agreement.Holds (Reader.pair first second values closed)
      (Reader.pair first' second' values closed) := by
  match values with
  | [] => exact agreement.refl _
  | [left] => exact agreement.bind (each left (.head _)) fun payload => agreement.refl _
  | left :: right :: rest =>
      exact agreement.bind (each left (.head _)) fun payload =>
        agreement.bind (each' right (.tail _ (.head _))) fun payload' => agreement.refl _

variable {shapes : Shapes} {record : RecordShape} {json : Json} {below below' : Option Reader}

theorem slots (inside : agreement.Below json below below') :
    agreement.Holds (Reader.slots below record json) (Reader.slots below' record json) := by
  cases json with
  | object entries closed =>
      cases inside with
      | flat flat => simp [Json.brackets] at flat
      | closed fault => exact fault _
      | deeper each =>
          simp only [Reader.slots]
          refine agreement.readEntries fun entry member index => ?_
          have within := Json.brackets_le_entries member
          cases record.shapes[index]? with
          | none => exact agreement.refl _
          | some shape => exact each _ (by rw [Json.brackets]; omega) shape
  | _ => exact agreement.refl _

theorem atLevel (inside : agreement.Below json below below') (shape : Shape) :
    agreement.Holds (Reader.atLevel shapes below shape json)
      (Reader.atLevel shapes below' shape json) := by
  induction shape with
  | list item =>
      cases json with
      | array values closed =>
          cases inside with
          | flat flat => simp [Json.brackets] at flat
          | closed fault => exact fault _
          | deeper each =>
              refine agreement.map _ (agreement.items fun value member => each value ?_ item)
              rw [Json.brackets]
              exact Nat.lt_succ_of_le (Json.brackets_le_items member)
      | _ => exact agreement.refl _
  | optional inner ih =>
      cases json with
      | null => exact agreement.refl _
      | _ => exact agreement.map _ ih
  | pair first second =>
      cases json with
      | array values closed =>
          cases inside with
          | flat flat => simp [Json.brackets] at flat
          | closed fault => exact fault _
          | deeper each =>
              have within {value : Json} (member : value ∈ values) :
                  value.brackets < (Json.array values closed).brackets := by
                rw [Json.brackets]
                exact Nat.lt_succ_of_le (Json.brackets_le_items member)
              exact agreement.pair (fun value member => each value (within member) first)
                fun value member => each value (within member) second
      | _ => exact agreement.refl _
  | record name =>
      simp only [Reader.atLevel]
      cases shapes name with
      | none => exact agreement.refl _
      | some record => exact agreement.map _ (agreement.slots inside)
  | _ => exact agreement.refl _

end Agreement

namespace Reader

/-- Where enough brackets may be open, more make no difference. -/
theorem nested_succ (shapes : Shapes) (depth : Nat) (shape : Shape) (json : Json)
    (shallow : json.brackets ≤ depth) :
    nested shapes depth shape json = nested shapes (depth + 1) shape json := by
  induction depth generalizing shape json with
  | zero => exact Agreement.equal.atLevel (.flat (Nat.le_zero.mp shallow)) shape
  | succ depth ih =>
      refine Agreement.equal.atLevel (.deeper fun inner less shape => ?_) shape
      exact ih shape inner (by omega)

theorem nested_further (shapes : Shapes) (depth : Nat) (shape : Shape) (json : Json) :
    Agreement.further.Holds (nested shapes depth shape json)
      (nested shapes (depth + 1) shape json) := by
  induction depth generalizing shape json with
  | zero => exact Agreement.further.atLevel (.closed fun reading => .inl rfl) shape
  | succ depth ih =>
      exact Agreement.further.atLevel (.deeper fun inner _ shape => ih shape inner) shape

end Reader

end SlotSum
