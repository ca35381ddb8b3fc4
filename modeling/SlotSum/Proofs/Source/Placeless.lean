import SlotSum.Proofs.Source.Steady

/-!
Productions for which it does not matter where tokens stand. Only the place of a fault depends on the
place of the tokens, so the same tokens have the same messages wherever they are.
-/

namespace SlotSum

open Token (Look)

/-- Results that are alike but for where faults are. -/
inductive Alike (related : α → β → Prop) : Except Fault α → Except Fault β → Prop
  | ok (same : related value value') : Alike related (.ok value) (.ok value')
  | error (cause : fault.cause = fault'.cause) (atEnd : fault.atEnd = fault'.atEnd) :
      Alike related (.error fault) (.error fault')

namespace Parse

/-- The tokens that are left decide, and only the place of a fault depends on anything else. -/
def Placeless (production : Parse α) : Prop :=
  ∀ cursor cursor' : Cursor, cursor.tokens = cursor'.tokens →
    Alike (fun found found' : α × Cursor => found.1 = found'.1 ∧ found.2.tokens = found'.2.tokens)
      (production cursor) (production cursor')

section

variable {production other : Parse α} {next : α → Parse β}

theorem Placeless.bind (first : Placeless production) (rest : ∀ value, Placeless (next value)) :
    Placeless (production >>= next) := by
  intro cursor cursor' tokens
  have alike := first cursor cursor' tokens
  generalize read : production cursor = found at alike
  generalize read' : production cursor' = found' at alike
  cases alike with
  | error cause atEnd =>
      rw [bind_error read, bind_error read']
      exact .error cause atEnd
  | @ok found found' same =>
      obtain ⟨value, after⟩ := found
      obtain ⟨value', after'⟩ := found'
      obtain ⟨rfl, left⟩ : value = value' ∧ after.tokens = after'.tokens := same
      rw [bind_ok read, bind_ok read']
      exact rest value after after' left

theorem placeless_pure (value : α) : Placeless (pure value : Parse α) :=
  fun _ _ tokens => .ok ⟨rfl, tokens⟩

theorem placeless_fail (cause : Cause) : Placeless (fail cause : Parse α) := by
  intro cursor cursor' tokens
  refine .error rfl ?_
  simp only [Cursor.fault, tokens]

theorem placeless_throw (fault : Fault) : Placeless (throw fault : Parse α) :=
  fun _ _ _ => .error rfl rfl

theorem placeless_missingMark (operator : String) : Placeless (missingMark operator : Parse α) :=
  fun _ _ _ => .error rfl rfl

theorem placeless_advance (token : Token) (rest : List Token) : Placeless (advance token rest) :=
  fun _ _ _ => .ok ⟨rfl, rfl⟩

/-- What asks for the tokens that are left and for nothing else. -/
theorem placeless_get {next : Cursor → Parse α}
    (blind : ∀ cursor cursor' : Cursor, cursor.tokens = cursor'.tokens →
      next cursor = next cursor')
    (each : ∀ cursor, Placeless (next cursor)) : Placeless (get >>= next) := by
  intro cursor cursor' tokens
  rw [get_apply, get_apply, blind cursor cursor' tokens]
  exact each cursor' cursor cursor' tokens

theorem placeless_isEmpty : Placeless isEmpty := by
  intro cursor cursor' tokens
  have asked (cursor : Cursor) : isEmpty cursor = .ok (cursor.tokens.isEmpty, cursor) := rfl
  rw [asked, asked, tokens]
  exact .ok ⟨rfl, tokens⟩

theorem placeless_word (text : String) : Placeless (word text) := by
  refine placeless_get (fun _ _ tokens => by rw [tokens]) fun cursor => ?_
  split
  · split
    · exact (placeless_advance _ _).bind fun _ => placeless_pure _
    · exact placeless_fail _
  · exact placeless_fail _

theorem placeless_takeMarks (operator : String) (chars : List Char) :
    Placeless (takeMarks operator chars) := by
  induction chars with
  | nil => exact placeless_pure ()
  | cons c cs ih =>
      refine placeless_get (fun _ _ tokens => by rw [tokens]) fun cursor => ?_
      split
      · split
        · exact (placeless_advance _ _).bind fun _ => ih
        · exact placeless_missingMark operator
      · exact placeless_missingMark operator

theorem placeless_mark (operator : String) : Placeless (mark operator) := by
  intro cursor cursor' tokens
  have asked (cursor : Cursor) : mark operator cursor =
      if Look.mark operator cursor.tokens then takeMarks operator operator.toList cursor
      else missingMark operator cursor := rfl
  rw [asked, asked, tokens]
  split
  · exact placeless_takeMarks operator _ cursor cursor' tokens
  · exact .error rfl rfl

end

/-- The contents of a group, whatever closes it and whatever stands before it. -/
theorem Placeless.inside {production : Parse α} (placeless : Placeless production)
    (tokens : List Token) (closing closing' : Span) (cursor cursor' : Cursor) :
    Alike (fun found found' => found.1 = found'.1) (inside tokens closing production cursor)
      (inside tokens closing' production cursor') := by
  have alike := placeless ⟨tokens, closing, cursor.last⟩ ⟨tokens, closing', cursor'.last⟩ rfl
  rw [Parse.inside, Parse.inside]
  generalize production ⟨tokens, closing, cursor.last⟩ = found at alike
  generalize production ⟨tokens, closing', cursor'.last⟩ = found' at alike
  cases alike with
  | error cause atEnd => exact .error cause atEnd
  | @ok found found' same =>
      obtain ⟨value, after⟩ := found
      obtain ⟨value', after'⟩ := found'
      obtain ⟨rfl, left⟩ : value = value' ∧ after.tokens = after'.tokens := same
      simp only [← left]
      cases Token.front after.tokens with
      | nil => exact .ok rfl
      | cons first rest => exact .error rfl rfl

end Parse

end SlotSum
