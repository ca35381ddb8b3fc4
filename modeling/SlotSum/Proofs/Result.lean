/-!
Results of steps that may fail. What comes of several steps comes of an accepted result of each.
-/

namespace SlotSum

theorem bind_eq_ok {result : Except ε α} {next : α → Except ε β} {value : β} :
    result >>= next = .ok value ↔ ∃ found, result = .ok found ∧ next found = .ok value := by
  cases result with
  | error reason => exact ⟨nofun, nofun⟩
  | ok found =>
      constructor
      · intro accepted
        exact ⟨found, rfl, accepted⟩
      · rintro ⟨same, own, accepted⟩
        cases own
        exact accepted

theorem map_eq_ok {change : α → β} {result : Except ε α} {value : β} :
    result.map change = .ok value ↔ ∃ found, result = .ok found ∧ change found = value := by
  cases result with
  | error reason => exact ⟨nofun, nofun⟩
  | ok found => simp [Except.map]

theorem mapError_eq_ok {change : ε → ε'} {result : Except ε α} {value : α} :
    result.mapError change = .ok value ↔ result = .ok value := by
  cases result with
  | error reason => exact ⟨nofun, nofun⟩
  | ok found =>
      constructor
      · intro accepted
        exact congrArg Except.ok (Except.ok.inj accepted)
      · intro accepted
        exact congrArg Except.ok (Except.ok.inj accepted)

theorem mapM_isOk_iff {change : α → Except ε β} {items : List α} :
    (∃ results, items.mapM change = .ok results) ↔
      ∀ item ∈ items, ∃ result, change item = .ok result := by
  induction items with
  | nil => exact ⟨fun _ => by simp, fun _ => ⟨[], rfl⟩⟩
  | cons first rest ih =>
      rw [List.forall_mem_cons, ← ih, List.mapM_cons]
      constructor
      · rintro ⟨results, made⟩
        obtain ⟨result, own, made⟩ := bind_eq_ok.mp made
        obtain ⟨others, made, -⟩ := bind_eq_ok.mp made
        exact ⟨⟨result, own⟩, others, made⟩
      · rintro ⟨⟨result, own⟩, others, made⟩
        exact ⟨result :: others, bind_eq_ok.mpr ⟨result, own, bind_eq_ok.mpr ⟨others, made, rfl⟩⟩⟩

theorem toOption_eq_some {result : Except ε α} {value : α} :
    result.toOption = some value ↔ result = .ok value := by
  cases result with
  | error reason => exact ⟨nofun, nofun⟩
  | ok found => simp [Except.toOption]

end SlotSum
