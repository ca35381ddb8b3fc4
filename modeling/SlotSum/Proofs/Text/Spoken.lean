import SlotSum.Proofs.Text.Words

/-!
What capitals show of a plain name. They show its words as they are spoken: empty words are not
heard, and digits that follow digits are heard as one number. So two names have one form with
capitals just if the words of their forms in lower case are spoken alike.
-/

namespace SlotSum.Text

def isNumber (word : List Char) : Bool := word.all Char.isDigit

/-- Puts a word in front of words, as part of the first one if both are numbers. -/
def putWord (word : List Char) : List (List Char) → List (List Char)
  | [] => [word]
  | next :: others =>
    if isNumber word && isNumber next then (word ++ next) :: others else word :: next :: others

/-- The words between the underscores of a name that are not empty, with numbers that follow each
other joined. -/
def spoken (name : List Char) : List (List Char) :=
  ((name.splitOn '_').filter fun word => !word.isEmpty).foldr putWord []

/-- Rows of small words and numbers, no two numbers next to each other. -/
inductive AreSpoken : List (List Char) → Prop
  | nil : AreSpoken []
  | word (letters : ∀ d ∈ c :: tail, d.isLower = true) (rest : AreSpoken others) :
      AreSpoken ((c :: tail) :: others)
  | number (digits : ∀ d ∈ c :: tail, d.isDigit = true)
      (apart : ∀ next ∈ others.head?, isNumber next = false) (rest : AreSpoken others) :
      AreSpoken ((c :: tail) :: others)

/-! ### Joining numbers -/

theorem isDigit_eq_false_of_isLower {c : Char} (small : c.isLower = true) : c.isDigit = false := by
  cases digit : c.isDigit with
  | false => rfl
  | true =>
      have letter := isAlpha_eq_false_of_isDigit digit
      rw [Char.isAlpha, small, Bool.or_true] at letter
      cases letter

theorem isNumber_eq_false_of_letters {c : Char} {tail : List Char}
    (letters : ∀ d ∈ c :: tail, d.isLower = true) : isNumber (c :: tail) = false := by
  rw [isNumber, List.all_cons, isDigit_eq_false_of_isLower (letters c (by simp)), Bool.false_and]

theorem isNumber_iff {word : List Char} : isNumber word = true ↔ ∀ d ∈ word, d.isDigit = true :=
  List.all_eq_true

theorem AreSpoken.putWord {word : List Char} {others : List (List Char)} (some_ : word ≠ [])
    (small : IsSmall word) (rest : AreSpoken others) : AreSpoken (putWord word others) := by
  obtain ⟨c, tail, rfl⟩ := List.exists_cons_of_ne_nil some_
  cases others with
  | nil =>
      rcases small with letters | digits
      · exact .word letters .nil
      · exact .number digits (by simp) .nil
  | cons next others =>
      rw [Text.putWord]
      rcases small with letters | digits
      · rw [isNumber_eq_false_of_letters letters, if_neg (by simp)]
        exact .word letters rest
      · rw [isNumber_iff.mpr digits, Bool.true_and]
        cases numbers : isNumber next with
        | false => exact .number digits (by simpa using numbers) rest
        | true =>
            cases rest with
            | word letters rest =>
                rw [isNumber_eq_false_of_letters letters] at numbers
                cases numbers
            | number digits' apart rest =>
                refine .number (fun d member => ?_) apart rest
                rcases List.mem_append.mp (List.cons_append ▸ member) with own | other
                · exact digits d own
                · exact digits' d other

theorem areSpoken_foldr {parts : List (List Char)}
    (small : ∀ part ∈ parts, part ≠ [] ∧ IsSmall part) : AreSpoken (parts.foldr putWord []) := by
  induction parts with
  | nil => exact .nil
  | cons part rest ih =>
      rw [List.forall_mem_cons] at small
      exact (ih small.2).putWord small.1.1 small.1.2

theorem raised_of_isNumber {word : List Char} (number : isNumber word = true) :
    raised word = word := by
  cases word with
  | nil => rfl
  | cons c tail =>
      have digit := isNumber_iff.mp number c (by simp)
      have noLower : ¬ c.isLower = true := fun small => by
        rw [isDigit_eq_false_of_isLower small] at digit
        cases digit
      rw [raised, Char.toUpper_eq_of_not_isLower noLower]

theorem flatMap_raised_putWord (word : List Char) (others : List (List Char)) :
    (putWord word others).flatMap raised = raised word ++ others.flatMap raised := by
  cases others with
  | nil => rfl
  | cons next others =>
      rw [putWord]
      split
      · rename_i numbers
        rw [Bool.and_eq_true] at numbers
        have joined : isNumber (word ++ next) = true := by
          rw [isNumber, List.all_append, Bool.and_eq_true]
          exact numbers
        rw [List.flatMap_cons, List.flatMap_cons, raised_of_isNumber joined,
          raised_of_isNumber numbers.1, raised_of_isNumber numbers.2, List.append_assoc]
      · rfl

theorem flatMap_raised_foldr (parts : List (List Char)) :
    (parts.foldr putWord []).flatMap raised = parts.flatMap raised := by
  induction parts with
  | nil => rfl
  | cons part rest ih => rw [List.foldr_cons, flatMap_raised_putWord, ih, List.flatMap_cons]

/-! ### Reading capitals -/

/-- A row is cut in one way where a property ends. -/
theorem append_inj_of_stops {holds : Char → Bool} {first second first' second' : List Char}
    (all : ∀ d ∈ first, holds d = true) (all' : ∀ d ∈ first', holds d = true)
    (stops : ∀ d ∈ second.head?, holds d = false) (stops' : ∀ d ∈ second'.head?, holds d = false)
    (same : first ++ second = first' ++ second') : first = first' ∧ second = second' := by
  induction first generalizing first' with
  | nil =>
      cases first' with
      | nil => exact ⟨rfl, same⟩
      | cons d tail =>
          have ends := stops d (by rw [← List.nil_append second, same]; rfl)
          rw [all' d (by simp)] at ends
          cases ends
  | cons c rest ih =>
      cases first' with
      | nil =>
          have ends := stops' c (by rw [← List.nil_append second', ← same]; rfl)
          rw [all c (by simp)] at ends
          cases ends
      | cons d tail =>
          rw [List.cons_append, List.cons_append, List.cons.injEq] at same
          rw [List.forall_mem_cons] at all all'
          obtain ⟨rfl, rest⟩ := ih all.2 all'.2 same.2
          exact ⟨congrArg (· :: _) same.1, rest⟩

theorem isDigit_toUpper {c : Char} (small : c.isLower = true) : c.toUpper.isDigit = false := by
  cases digit : c.toUpper.isDigit with
  | false => rfl
  | true =>
      have letter : c.toUpper.isUpper = true := by
        rw [Char.isUpper_toUpper_eq_isAlpha, Char.isAlpha, small, Bool.or_true]
      rw [isUpper_eq_false_of_isDigit digit] at letter
      cases letter

theorem toUpper_inj {c d : Char} (small : c.isLower = true) (small' : d.isLower = true)
    (same : c.toUpper = d.toUpper) : c = d := by
  have kept {e : Char} (small : e.isLower = true) : e.toUpper.toLower = e := by
    rw [Char.toLower_toUpper_eq_toLower,
      Char.toLower_eq_of_not_isUpper (Char.not_isUpper_of_isLower small)]
  rw [← kept small, same, kept small']

theorem AreSpoken.head_not_small {row : List (List Char)} (spoken : AreSpoken row) :
    ∀ d ∈ (row.flatMap raised).head?, d.isLower = false := by
  cases spoken with
  | nil => simp
  | word letters rest => simp [raised, Char.isLower_toUpper_eq_false]
  | number digits apart rest => simp [raised, Char.isLower_toUpper_eq_false]

theorem AreSpoken.head_not_digit {row : List (List Char)} (spoken : AreSpoken row)
    (apart : ∀ next ∈ row.head?, isNumber next = false) :
    ∀ d ∈ (row.flatMap raised).head?, d.isDigit = false := by
  cases spoken with
  | nil => simp
  | word letters rest => simp [raised, isDigit_toUpper (letters _ (List.mem_cons_self ..))]
  | number digits _ rest =>
      have number := apart _ rfl
      rw [isNumber_iff.mpr digits] at number
      cases number

theorem flatMap_raised_word {c : Char} {tail : List Char} {others : List (List Char)} :
    ((c :: tail) :: others).flatMap raised = c.toUpper :: (tail ++ others.flatMap raised) := rfl

theorem flatMap_raised_number {word : List Char} {others : List (List Char)}
    (digits : ∀ d ∈ word, d.isDigit = true) :
    (word :: others).flatMap raised = word ++ others.flatMap raised := by
  rw [List.flatMap_cons, raised_of_isNumber (isNumber_iff.mpr digits)]

/-- Rows of words with one form with capitals are one row. -/
theorem AreSpoken.eq_of_raised {left right : List (List Char)} (spoken : AreSpoken left)
    (spoken' : AreSpoken right) (same : left.flatMap raised = right.flatMap raised) :
    left = right := by
  induction spoken generalizing right with
  | nil =>
      cases spoken' with
      | nil => rfl
      | word letters rest => cases same
      | number digits apart rest => cases same
  | word letters rest ih =>
      cases spoken' with
      | nil => cases same
      | word letters' rest' =>
          rw [flatMap_raised_word, flatMap_raised_word, List.cons.injEq] at same
          rw [List.forall_mem_cons] at letters letters'
          obtain ⟨rfl, others⟩ := append_inj_of_stops letters.2 letters'.2 rest.head_not_small
            rest'.head_not_small same.2
          rw [toUpper_inj letters.1 letters'.1 same.1, ih rest' others]
      | number digits' apart' rest' =>
          rw [flatMap_raised_word, flatMap_raised_number digits', List.cons_append,
            List.cons.injEq] at same
          have digit := digits' _ (List.mem_cons_self ..)
          rw [← same.1, isDigit_toUpper (letters _ (List.mem_cons_self ..))] at digit
          cases digit
  | number digits apart rest ih =>
      cases spoken' with
      | nil => cases same
      | word letters' rest' =>
          rw [flatMap_raised_number digits, flatMap_raised_word, List.cons_append,
            List.cons.injEq] at same
          have digit := digits _ (List.mem_cons_self ..)
          rw [same.1, isDigit_toUpper (letters' _ (List.mem_cons_self ..))] at digit
          cases digit
      | number digits' apart' rest' =>
          rw [flatMap_raised_number digits, flatMap_raised_number digits'] at same
          obtain ⟨own, others⟩ := append_inj_of_stops digits digits' (rest.head_not_digit apart)
            (rest'.head_not_digit apart') same
          rw [own, ih rest' others]

/-! ### Plain names -/

theorem IsSmall.no_score {word : List Char} (small : IsSmall word) : '_' ∉ word := by
  intro member
  rcases small with letters | digits
  · exact absurd (letters _ member) (by decide)
  · exact absurd (digits _ member) (by decide)

theorem splitOn_of_small {parts : List (List Char)} (small : ∀ part ∈ parts, IsSmall part) :
    ((['_'].intercalate parts).splitOn '_').filter (fun word => !word.isEmpty) =
      parts.filter fun word => !word.isEmpty := by
  cases parts with
  | nil => rfl
  | cons part rest =>
      rw [List.splitOn_intercalate '_' (fun word member => (small word member).no_score)
        (List.cons_ne_nil part rest)]

theorem flatMap_raised_filter (parts : List (List Char)) :
    (parts.filter fun word => !word.isEmpty).flatMap raised = parts.flatMap raised := by
  induction parts with
  | nil => rfl
  | cons part rest ih =>
      cases part with
      | nil => exact ih
      | cons c tail => exact congrArg (raised (c :: tail) ++ ·) ih

/-- The form with capitals shows the words of the other form as they are spoken. -/
theorem pascal_eq {text : List Char} (plain : IsPlain text) :
    AreSpoken (spoken (snake text)) ∧ pascal text = (spoken (snake text)).flatMap raised := by
  obtain ⟨parts, small, isSnake, isPascal⟩ := forms_of_plain plain
  rw [isSnake, isPascal, spoken, splitOn_of_small small, flatMap_raised_foldr,
    flatMap_raised_filter]
  refine ⟨areSpoken_foldr fun part member => ?_, rfl⟩
  obtain ⟨own, some_⟩ := List.mem_filter.mp member
  exact ⟨by simpa using some_, small part own⟩

/-- Two plain names have one form with capitals just if the words of their forms in lower case are
spoken alike. -/
theorem pascal_eq_iff {left right : List Char} (plain : IsPlain left) (plain' : IsPlain right) :
    pascal left = pascal right ↔ spoken (snake left) = spoken (snake right) := by
  obtain ⟨areSpoken, shown⟩ := pascal_eq plain
  obtain ⟨areSpoken', shown'⟩ := pascal_eq plain'
  rw [shown, shown']
  exact ⟨areSpoken.eq_of_raised areSpoken', congrArg (List.flatMap raised)⟩

/-! ### Tidy names -/

/-- A name without a doubled underscore, one at an end, or one between two numbers. -/
def IsTidy (name : List Char) : Prop :=
  (∀ word ∈ name.splitOn '_', word ≠ []) ∧
    (name.splitOn '_').IsChain fun word next => ¬ (isNumber word = true ∧ isNumber next = true)

instance (name : List Char) : Decidable (IsTidy name) :=
  inferInstanceAs (Decidable (_ ∧ _))

theorem foldr_putWord_of_chain {parts : List (List Char)}
    (apart : parts.IsChain fun word next => ¬ (isNumber word = true ∧ isNumber next = true)) :
    parts.foldr putWord [] = parts := by
  induction parts with
  | nil => rfl
  | cons part rest ih =>
      cases rest with
      | nil => rfl
      | cons next others =>
          rw [List.isChain_cons_cons] at apart
          rw [List.foldr_cons, ih apart.2, putWord, if_neg (by simpa using apart.1)]

/-- Tidy names are spoken as they are written. -/
theorem eq_of_spoken {left right : List Char} (tidy : IsTidy left) (tidy' : IsTidy right)
    (same : spoken left = spoken right) : left = right := by
  have written {name : List Char} (tidy : IsTidy name) : spoken name = name.splitOn '_' := by
    have whole : ∀ word ∈ name.splitOn '_', (!word.isEmpty) = true := fun word member => by
      simpa using tidy.1 word member
    rw [spoken, List.filter_eq_self.mpr whole, foldr_putWord_of_chain tidy.2]
  rw [written tidy, written tidy'] at same
  calc left = ['_'].intercalate (left.splitOn '_') := (List.intercalate_splitOn '_').symm
    _ = ['_'].intercalate (right.splitOn '_') := by rw [same]
    _ = right := List.intercalate_splitOn '_'

end SlotSum.Text
