import SlotSum.Proofs.Result
import SlotSum.Source.Reader

/-!
What productions know of the tokens before them. A cursor remembers where the last token ended, and
nothing else of what was taken. A production is steady if it does not look at that place before it
takes a token of its own, and firm if it takes one whenever it succeeds.
-/

namespace SlotSum.Parse

open Token (Look)

/-! ### Binding -/

section

variable {production : Parse α} {next : α → Parse β} {cursor after : Cursor} {value : α}

theorem bind_ok (read : production cursor = .ok (value, after)) :
    (production >>= next) cursor = next value after := by
  have unfolded : (production >>= next) cursor =
      (production cursor >>= fun (value, after) => next value after) := rfl
  rw [unfolded, read]
  rfl

theorem bind_error {fault : Fault} (failed : production cursor = .error fault) :
    (production >>= next) cursor = .error fault := by
  have unfolded : (production >>= next) cursor =
      (production cursor >>= fun (value, after) => next value after) := rfl
  rw [unfolded, failed]
  rfl

theorem eq_of_bind_ok {result : β × Cursor} (read : (production >>= next) cursor = .ok result) :
    ∃ value after, production cursor = .ok (value, after) ∧ next value after = .ok result := by
  obtain ⟨⟨value, after⟩, first, second⟩ := bind_eq_ok.mp read
  exact ⟨value, after, first, second⟩

theorem get_apply {next : Cursor → Parse α} (cursor : Cursor) :
    (get >>= next) cursor = next cursor cursor := rfl

theorem map_eq_bind (change : α → β) (production : Parse α) :
    change <$> production = production >>= fun value => pure (change value) := rfl

theorem map_ok {change : α → β} (read : production cursor = .ok (value, after)) :
    (change <$> production) cursor = .ok (change value, after) := by
  rw [map_eq_bind, bind_ok read]
  rfl

theorem eq_of_map_ok {change : α → β} {result : β}
    (read : (change <$> production) cursor = .ok (result, after)) :
    ∃ value, production cursor = .ok (value, after) ∧ change value = result := by
  rw [map_eq_bind] at read
  obtain ⟨value, there, first, second⟩ := eq_of_bind_ok read
  cases second
  exact ⟨value, first, rfl⟩

theorem bind_congr {cursor' : Cursor} (same : production cursor' = production cursor) :
    (production >>= next) cursor' = (production >>= next) cursor := by
  cases read : production cursor with
  | error fault => rw [bind_error read, bind_error (same.trans read)]
  | ok found => rw [bind_ok read, bind_ok (same.trans read)]

end

/-! ### Steady productions -/

/-- Wherever the last token ended, the result is one and the same. -/
def Firm (production : Parse α) : Prop :=
  ∀ (cursor : Cursor) (last : Span), production { cursor with last } = production cursor

/-- The result is one and the same, or nothing is taken and the value is the same. -/
def Steady (production : Parse α) : Prop :=
  ∀ (cursor : Cursor) (last : Span), production { cursor with last } = production cursor ∨
    ∃ value, production cursor = .ok (value, cursor) ∧
      production { cursor with last } = .ok (value, { cursor with last })

section

variable {production other : Parse α} {next : α → Parse β}

theorem Firm.steady (firm : Firm production) : Steady production :=
  fun cursor last => .inl (firm cursor last)

theorem Firm.bind (firm : Firm production) : Firm (production >>= next) :=
  fun cursor last => bind_congr (firm cursor last)

theorem Steady.bind (steady : Steady production) (rest : ∀ value, Steady (next value)) :
    Steady (production >>= next) := by
  intro cursor last
  rcases steady cursor last with same | ⟨value, kept, kept'⟩
  · exact .inl (bind_congr same)
  · rw [bind_ok kept, bind_ok kept']
    exact rest value cursor last

/-- A steady production that succeeds does so wherever the last token ended. -/
theorem Steady.moved (steady : Steady production) {cursor after : Cursor} {value : α}
    (read : production cursor = .ok (value, after)) (last : Span) :
    ∃ last', production { cursor with last } = .ok (value, { after with last := last' }) := by
  rcases steady cursor last with same | ⟨_, kept, kept'⟩
  · exact ⟨after.last, same.trans read⟩
  · cases kept.symm.trans read
    exact ⟨last, kept'⟩

theorem steady_pure (value : α) : Steady (pure value : Parse α) :=
  fun _ _ => .inr ⟨value, rfl, rfl⟩

theorem steady_peek (look : Look) : Steady (peek look) :=
  fun cursor _ => .inr ⟨look cursor.tokens, rfl, rfl⟩

/-- What asks for the cursor, but not for where the last token ended. -/
theorem firm_get {next : Cursor → Parse α}
    (blind : ∀ (cursor : Cursor) (last : Span), next { cursor with last } = next cursor)
    (each : ∀ cursor, Firm (next cursor)) : Firm (get >>= next) := by
  intro cursor last
  rw [get_apply, get_apply, blind]
  exact each cursor cursor last

theorem steady_get {next : Cursor → Parse α}
    (blind : ∀ (cursor : Cursor) (last : Span), next { cursor with last } = next cursor)
    (each : ∀ cursor, Steady (next cursor)) : Steady (get >>= next) := by
  intro cursor last
  rw [get_apply, get_apply, blind]
  exact each cursor cursor last

theorem firm_fail (cause : Cause) : Firm (fail cause : Parse α) := fun _ _ => rfl

theorem firm_missingMark (operator : String) : Firm (missingMark operator : Parse α) :=
  fun _ _ => rfl

theorem firm_advance (token : Token) (rest : List Token) : Firm (advance token rest) :=
  fun _ _ => rfl

theorem firm_word (text : String) : Firm (word text) := by
  refine firm_get (fun _ _ => rfl) fun cursor => ?_
  split
  · split
    · exact (firm_advance _ _).bind
    · exact firm_fail _
  · exact firm_fail _

theorem firm_takeMarks (operator : String) (c : Char) (cs : List Char) :
    Firm (takeMarks operator (c :: cs)) := by
  refine firm_get (fun _ _ => rfl) fun cursor => ?_
  split
  · split
    · exact (firm_advance _ _).bind
    · exact firm_missingMark operator
  · exact firm_missingMark operator

theorem firm_mark {operator : String} {c : Char} {cs : List Char}
    (chars : operator.toList = c :: cs) : Firm (mark operator) := by
  intro cursor last
  simp only [mark, chars]
  split
  · exact firm_takeMarks operator c cs cursor last
  · rfl

/-- A word that may stand here: if it does, it is taken. -/
theorem word?_apply (text : String) (cursor : Cursor) : word? text cursor =
    if Look.word text cursor.tokens then (do let _ ← word text; return true : Parse Bool) cursor
    else .ok (false, cursor) := by
  have unfolded : word? text cursor =
      (if Look.word text cursor.tokens then (do let _ ← word text; return true : Parse Bool)
        else return false) cursor := rfl
  rw [unfolded]
  split
  · rfl
  · rfl

theorem word?_steady (text : String) (cursor : Cursor) (last : Span) :
    word? text { cursor with last } = word? text cursor ∨
      word? text cursor = .ok (false, cursor) ∧
        word? text { cursor with last } = .ok (false, { cursor with last }) := by
  simp only [word?_apply]
  by_cases there : Look.word text cursor.tokens = true
  · rw [if_pos there, if_pos there]
    exact .inl ((firm_word text).bind cursor last)
  · rw [if_neg there, if_neg there]
    exact .inr ⟨rfl, rfl⟩

theorem steady_word? (text : String) : Steady (word? text) := by
  intro cursor last
  rcases word?_steady text cursor last with same | ⟨kept, kept'⟩
  · exact .inl same
  · exact .inr ⟨false, kept, kept'⟩

/-- Only what happens without the word has to be steady. -/
theorem Steady.word? (text : String) {next : Bool → Parse β} (rest : Steady (next false)) :
    Steady (Parse.word? text >>= next) := by
  intro cursor last
  rcases word?_steady text cursor last with same | ⟨kept, kept'⟩
  · exact .inl (bind_congr same)
  · rw [bind_ok kept, bind_ok kept']
    exact rest cursor last

theorem spanned_apply (production : Parse α) (cursor : Cursor) : spanned production cursor =
    (production cursor >>= fun (value, after) =>
      let first := Cursor.here { cursor with tokens := Token.front cursor.tokens }
      .ok ((value, first.through after.last), after)) := rfl

theorem spanned_ok {cursor after : Cursor} {value : α}
    (read : production cursor = .ok (value, after)) :
    ∃ span, spanned production cursor = .ok ((value, span), after) := by
  rw [spanned_apply, read]
  exact ⟨_, rfl⟩

theorem eq_of_spanned_ok {cursor after : Cursor} {value : α} {span : Span}
    (read : spanned production cursor = .ok ((value, span), after)) :
    production cursor = .ok (value, after) := by
  rw [spanned_apply] at read
  obtain ⟨found, own, read⟩ := bind_eq_ok.mp read
  cases read
  exact own

theorem Firm.spanned (firm : Firm production) : Firm (spanned production) := by
  intro cursor last
  rw [spanned_apply, spanned_apply, firm cursor last]
  rfl

/-- A loop whose elements are firm is steady: it takes something or ends where it began. -/
theorem steady_whileLoop (look : Look) (firm : Firm production) (turns : Nat) :
    Steady (whileLoop (peek look) production turns) := by
  cases turns with
  | zero => exact (firm_fail _).steady
  | succ turns =>
      refine (steady_peek look).bind fun found => ?_
      split
      · exact firm.bind.steady
      · exact steady_pure []

theorem many_apply (goOn : Parse Bool) (production : Parse α) (cursor : Cursor) :
    many goOn production cursor =
      whileLoop goOn production (Token.sizes cursor.tokens + 1) cursor := rfl

end

/-! ### Turns of a loop -/

/-- A loop that comes to its end does so with any larger bound on its turns. -/
theorem whileLoop_of_le {goOn : Parse Bool} {production : Parse α} {turns turns' : Nat}
    {cursor after : Cursor} {values : List α} (more : turns ≤ turns')
    (read : whileLoop goOn production turns cursor = .ok (values, after)) :
    whileLoop goOn production turns' cursor = .ok (values, after) := by
  induction turns generalizing turns' cursor after values with
  | zero => cases read
  | succ turns ih =>
      obtain ⟨bound, rfl⟩ : ∃ bound, turns' = bound + 1 := ⟨turns' - 1, by omega⟩
      obtain ⟨found, here, asked, read⟩ := eq_of_bind_ok read
      rw [whileLoop, bind_ok asked]
      cases found with
      | false => exact read
      | true =>
          obtain ⟨first, there, taken, read⟩ := eq_of_bind_ok read
          obtain ⟨rest, last, done, read⟩ := eq_of_bind_ok read
          have again : whileLoop goOn production bound there = .ok (rest, last) :=
            ih (Nat.le_of_succ_le_succ more) done
          rw [if_pos rfl, bind_ok taken, bind_ok again]
          exact read

/-! ### Whole token lists -/

/-- Where the reading of a whole token list begins. -/
def Cursor.start (tokens : List Token) : Cursor := ⟨tokens, .callSite, .callSite⟩

theorem run_eq_ok_iff {production : Parse α} {tokens : List Token} {value : α} :
    run production tokens = .ok value ↔
      ∃ after, production (Cursor.start tokens) = .ok (value, after) ∧
        Token.front after.tokens = [] := by
  simp only [run, inside, Cursor.start]
  constructor
  · intro accepted
    cases read : production ⟨tokens, .callSite, .callSite⟩ with
    | error fault => simp [read] at accepted
    | ok found =>
        obtain ⟨own, after⟩ := found
        cases left : Token.front after.tokens with
        | nil =>
            obtain rfl : own = value := by simpa [read, left] using accepted
            exact ⟨after, rfl, left⟩
        | cons first rest => simp [read, left] at accepted
  · rintro ⟨after, read, left⟩
    simp [read, left]

/-- What is asked before every element of a list that goes on to its end. -/
def notAtEnd : Parse Bool := do return !(← isEmpty)

theorem notAtEnd_apply (cursor : Cursor) :
    notAtEnd cursor = .ok (!cursor.tokens.isEmpty, cursor) := rfl

theorem eq_of_whileLoop_nil {production : Parse α} {turns : Nat} {cursor after : Cursor}
    (read : whileLoop notAtEnd production turns cursor = .ok ([], after)) :
    cursor.tokens = [] ∧ after = cursor := by
  cases turns with
  | zero => cases read
  | succ turns =>
      rw [whileLoop, bind_ok (notAtEnd_apply cursor)] at read
      cases left : cursor.tokens with
      | nil =>
          rw [left] at read
          cases read
          exact ⟨rfl, rfl⟩
      | cons first rest =>
          rw [left] at read
          obtain ⟨value, there, -, read⟩ := eq_of_bind_ok read
          obtain ⟨values, last, -, read⟩ := eq_of_bind_ok read
          cases read

theorem whileLoop_nil {production : Parse α} {turns : Nat} {cursor : Cursor}
    (left : cursor.tokens = []) :
    whileLoop notAtEnd production (turns + 1) cursor = .ok ([], cursor) := by
  rw [whileLoop, bind_ok (notAtEnd_apply cursor), left]
  rfl

/-- Exactly one element is read to the end. -/
theorem many_sole_iff {production : Parse α} {first : Token} {rest : List Token} {value : α}
    {scope last : Span} {after : Cursor} :
    many notAtEnd production ⟨first :: rest, scope, last⟩ = .ok ([value], after) ↔
      production ⟨first :: rest, scope, last⟩ = .ok (value, after) ∧ after.tokens = [] := by
  have asked : notAtEnd ⟨first :: rest, scope, last⟩ = .ok (true, ⟨first :: rest, scope, last⟩) :=
    rfl
  rw [many_apply, whileLoop, bind_ok asked, if_pos rfl]
  constructor
  · intro read
    obtain ⟨own, there, taken, read⟩ := eq_of_bind_ok read
    obtain ⟨values, last, done, read⟩ := eq_of_bind_ok read
    cases read
    obtain ⟨ended, rfl⟩ := eq_of_whileLoop_nil done
    exact ⟨taken, ended⟩
  · rintro ⟨taken, ended⟩
    have positive : 0 < Token.sizes (first :: rest) := by
      cases first <;> simp only [Token.sizes, Token.size] <;> omega
    obtain ⟨turns, enough⟩ := Nat.exists_eq_succ_of_ne_zero (Nat.ne_of_gt positive)
    rw [bind_ok taken, enough, bind_ok (whileLoop_nil ended)]
    rfl

end SlotSum.Parse
