import SlotSum.Proofs.Source.Steady

/-!
What stands in front of a token list. Invisible groups are opened there, of which no token comes;
without them the first token is in front. Taking a word or a comma leaves what follows it.
-/

namespace SlotSum

open Token (Look)

namespace Token

/-- No invisible group stands among the tokens. There may be some inside of other groups. -/
def AreVisible (tokens : List Token) : Prop :=
  ∀ inner opening closing, group .invisible inner opening closing ∉ tokens

theorem AreVisible.of_subset {tokens tokens' : List Token} (visible : AreVisible tokens)
    (subset : tokens' ⊆ tokens) : AreVisible tokens' :=
  fun inner opening closing member => visible inner opening closing (subset member)

theorem AreVisible.of_cons {token : Token} {rest : List Token}
    (visible : AreVisible (token :: rest)) : AreVisible rest :=
  visible.of_subset (List.subset_cons_self token rest)

theorem front_cons {token : Token} (rest : List Token) (visible : AreVisible [token]) :
    front (token :: rest) = token :: rest := by
  cases token with
  | word | mark | literal => rfl
  | group delimiter inner opening closing =>
      cases delimiter with
      | paren | bracket | brace => rfl
      | invisible => exact absurd (List.mem_singleton_self _) (visible inner opening closing)

theorem AreVisible.front {tokens : List Token} (visible : AreVisible tokens) :
    front tokens = tokens := by
  cases tokens with
  | nil => rfl
  | cons token rest => exact front_cons rest (visible.of_subset (by simp))

theorem AreVisible.eq_of_front {tokens tokens' : List Token} (visible : AreVisible tokens)
    (here : Token.front tokens = tokens') : tokens = tokens' :=
  visible.front.symm.trans here

theorem sizes_append (before after : List Token) :
    sizes (before ++ after) = sizes before + sizes after := by
  induction before with
  | nil => simp [sizes]
  | cons first rest ih => simp only [List.cons_append, sizes, ih, Nat.add_assoc]

mutual

theorem sizes_unveil_le : (token : Token) → sizes token.unveil ≤ token.size
  | .word _ | .mark .. | .literal .. => by simp [unveil, sizes, size]
  | .group .invisible inner _ _ => by
      have := sizes_front_le inner
      simp only [unveil, size]
      omega
  | .group .paren .. | .group .bracket .. | .group .brace .. => by simp [unveil, sizes, size]

/-- No token comes of opening groups. -/
theorem sizes_front_le : (tokens : List Token) → sizes (front tokens) ≤ sizes tokens
  | [] => by simp [front]
  | first :: rest => by
      have own := sizes_unveil_le first
      have others := sizes_front_le rest
      rw [front]
      split
      next => simp only [sizes]; omega
      next visible _ =>
        rw [sizes_append]
        simp only [sizes]
        omega

end

theorem sizes_lt_of_front {tokens rest : List Token} {token : Token}
    (here : front tokens = token :: rest) : sizes rest < sizes tokens := by
  have opened := sizes_front_le tokens
  have own : 0 < token.size := by cases token <;> simp only [size] <;> omega
  rw [here, sizes] at opened
  omega

theorem Look.word_eq_true_iff {text : String} {tokens : List Token} :
    Look.word text tokens = true ↔
      ∃ name rest, front tokens = .word name :: rest ∧ name.text = text := by
  unfold Look.word
  split
  next name rest here => simp [here]
  next other => simpa using fun name rest here => absurd here (other name rest)

end Token

namespace Parse

theorem word_ok {cursor : Cursor} {name : Name} {rest : List Token}
    (here : Token.front cursor.tokens = .word name :: rest) :
    word name.text cursor = .ok (name, { cursor with tokens := rest, last := name.span }) := by
  rw [word, get_apply, here]
  simp only [beq_self_eq_true, if_true]
  rfl

/-- A comma is looked for and taken. -/
theorem comma_apply (cursor : Cursor) : mark "," cursor =
    if Look.marks [','] cursor.tokens then takeMarks "," [','] cursor
    else missingMark "," cursor := rfl

theorem comma_ok {cursor : Cursor} {joint : Bool} {span : Span} {rest : List Token}
    (here : Token.front cursor.tokens = .mark ',' joint span :: rest) :
    mark "," cursor = .ok ((), { cursor with tokens := rest, last := span }) := by
  have there : Look.marks [','] cursor.tokens = true := by simp [Look.marks, here]
  rw [comma_apply, if_pos there, takeMarks, get_apply, here]
  rfl

theorem comma_error {cursor : Cursor}
    (missing : ∀ joint span rest, Token.front cursor.tokens ≠ .mark ',' joint span :: rest) :
    mark "," cursor = .error ⟨.expected ["`,`"], false, Cursor.here cursor⟩ := by
  have absent : ¬ Look.marks [','] cursor.tokens = true := by
    unfold Look.marks
    split
    next char joint span rest here =>
      have other : char ≠ ',' := by rintro rfl; exact missing joint span rest here
      simp [other]
    next => simp
  rw [comma_apply, if_neg absent]
  rfl

theorem inside_map (change : α → β) (tokens : List Token) (closing : Span)
    (production : Parse α) (cursor : Cursor) :
    inside tokens closing (change <$> production) cursor =
      (inside tokens closing production cursor).map fun found => (change found.1, found.2) := by
  have unfolded : (change <$> production) ⟨tokens, closing, cursor.last⟩ =
      (production ⟨tokens, closing, cursor.last⟩).map fun found => (change found.1, found.2) := by
    rw [map_eq_bind]
    cases read : production ⟨tokens, closing, cursor.last⟩ with
    | error fault => exact bind_error read
    | ok found => exact bind_ok read
  rw [inside, inside, unfolded]
  cases production ⟨tokens, closing, cursor.last⟩ with
  | error fault => rfl
  | ok found =>
      simp only [Except.map]
      split <;> rfl

end Parse

end SlotSum
