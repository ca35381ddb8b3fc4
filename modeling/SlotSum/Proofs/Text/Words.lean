import Mathlib
import SlotSum.Text.Words

/-!
Words of plain names, which hold letters and digits of ASCII and underscores. A name in lower case
shows where its words part; one with capitals does not show empty words, nor where digits that
follow digits begin, and it shows everything else.
-/

namespace SlotSum.Text

/-- Letters and digits of ASCII, and underscores. -/
def IsPlain (text : List Char) : Prop := ∀ c ∈ text, c.isAlphanum = true ∨ c = '_'

instance (text : List Char) : Decidable (IsPlain text) :=
  decidable_of_iff ((text.all fun c => c.isAlphanum || c == '_') = true) (by simp [IsPlain])

/-! ### Plain characters -/

theorem ascii_of_plain {c : Char} (plain : c.isAlphanum = true ∨ c = '_') : c.val < 128 := by
  rcases plain with alphanum | rfl
  · simp only [Char.isAlphanum, Char.isAlpha, Char.isUpper, Char.isLower, Char.isDigit,
      Bool.or_eq_true, Bool.and_eq_true, decide_eq_true_eq, ge_iff_le, UInt32.le_iff_toNat_le]
      at alphanum
    rw [UInt32.lt_iff_toNat_lt]
    change ((65 ≤ c.val.toNat ∧ c.val.toNat ≤ 90) ∨ (97 ≤ c.val.toNat ∧ c.val.toNat ≤ 122)) ∨
      (48 ≤ c.val.toNat ∧ c.val.toNat ≤ 57) at alphanum
    change c.val.toNat < 128
    omega
  · decide

theorem IsPlain.ascii {text : List Char} (plain : IsPlain text) : ∀ c ∈ text, c.val < 128 :=
  fun c member => ascii_of_plain (plain c member)

theorem inRanges_eq_false {ranges : List (Nat × Nat)} {c : Char}
    (beyond : (ranges.all fun range => 128 ≤ range.1) = true) (ascii : c.val < 128) :
    inRanges ranges c = false := by
  rw [inRanges, List.any_eq_false]
  intro range member inside
  have first : 128 ≤ range.1 := by simpa using List.all_eq_true.mp beyond range member
  have code : c.toNat < 128 := ascii
  simp only [Bool.and_eq_true, decide_eq_true_eq] at inside
  omega

theorem clusters_ascii {text : List Char} (ascii : ∀ c ∈ text, c.val < 128) :
    clusters text = text.map fun c => [c] := by
  induction text with
  | nil => rfl
  | cons c rest ih =>
      rw [List.forall_mem_cons] at ascii
      obtain ⟨own, others⟩ := ascii
      have cut (next : Char) (ascii' : next.val < 128) : joins c next = false := by
        rw [joins, inRanges_eq_false (by decide +kernel) ascii',
          inRanges_eq_false (by decide +kernel) own, Bool.or_false]
      cases rest with
      | nil => rfl
      | cons next tail =>
          have split : clusters (next :: tail) = [next] :: tail.map fun c => [c] := ih others
          rw [clusters.eq_def]
          simp only [split, cut next (others next (by simp)), Bool.false_eq_true, if_false,
            List.map_cons]

theorem upperChar_ascii {c : Char} (ascii : c.val < 128) : upperChar c = [c.toUpper] :=
  if_pos ascii

theorem lower_ascii {text : List Char} (ascii : ∀ c ∈ text, c.val < 128) :
    lower text = text.map Char.toLower := by
  have own : ∀ before, lowerAfter before text = text.map Char.toLower := by
    induction text with
    | nil => exact fun _ => rfl
    | cons c rest ih =>
        rw [List.forall_mem_cons] at ascii
        intro before
        have sigma : c.toNat ≠ 0x3A3 := by
          have code : c.toNat < 128 := ascii.1
          omega
        rw [lowerAfter, if_neg sigma, lowerChar, if_pos ascii.1, ih ascii.2]
        rfl
  exact own []

theorem cases_ascii {c : Char} (ascii : c.val < 128) :
    upper [c] = [c.toUpper] ∧ lower [c] = [c.toLower] := by
  refine ⟨?_, lower_ascii (by simpa using ascii)⟩
  rw [upper, List.flatMap_singleton, upperChar_ascii ascii]

theorem isUpperPiece_ascii {c : Char} (ascii : c.val < 128) : isUpperPiece [c] = c.isUpper := by
  rw [isUpperPiece, (cases_ascii ascii).1, (cases_ascii ascii).2, Bool.eq_iff_iff]
  simp only [Bool.and_eq_true, bne_iff_ne, beq_iff_eq, ne_eq, List.cons.injEq, and_true]
  constructor
  · rintro ⟨cased, same⟩
    refine Classical.byContradiction fun noUpper => cased ?_
    rw [← same, Char.toLower_eq_of_not_isUpper noUpper]
  · intro isUpper
    have same := Char.toUpper_eq_of_not_isLower (Char.not_isLower_of_isUpper isUpper)
    refine ⟨fun uncased => ?_, same.symm⟩
    have lowered := c.isUpper_toLower_eq_false
    rw [← uncased, same, isUpper] at lowered
    cases lowered

theorem isLowerPiece_ascii {c : Char} (ascii : c.val < 128) : isLowerPiece [c] = c.isLower := by
  rw [isLowerPiece, (cases_ascii ascii).1, (cases_ascii ascii).2, Bool.eq_iff_iff]
  simp only [Bool.and_eq_true, bne_iff_ne, beq_iff_eq, ne_eq, List.cons.injEq, and_true]
  constructor
  · rintro ⟨cased, same⟩
    refine Classical.byContradiction fun noLower => cased ?_
    rw [← same, Char.toUpper_eq_of_not_isLower noLower]
  · intro isLower
    have same := Char.toLower_eq_of_not_isUpper (Char.not_isUpper_of_isLower isLower)
    refine ⟨fun uncased => ?_, same.symm⟩
    have raised := c.isLower_toUpper_eq_false
    rw [uncased, same, isLower] at raised
    cases raised

/-! ### Words of one kind -/

/-- All letters or all digits. -/
def IsUniform (word : List Char) : Prop :=
  (∀ c ∈ word, c.isAlpha = true) ∨ ∀ c ∈ word, c.isDigit = true

theorem splitWords_cons {piece : Piece} (within : isSeparator piece = false) (rest : List Piece) :
    ∃ word words, splitWords (piece :: rest) = (piece ++ word) :: words := by
  cases rest with
  | nil =>
      rw [splitWords, if_neg (by simp [within]), splitWords]
      exact ⟨[], [], rfl⟩
  | cons right tail =>
      rw [splitWords.eq_def]
      simp only [within, Bool.false_eq_true, if_false]
      split
      · exact ⟨[], _, by rw [List.append_nil]⟩
      · cases splitWords (right :: tail) with
        | nil => exact ⟨[], [], by rw [List.append_nil]; rfl⟩
        | cons first others => exact ⟨first, others, rfl⟩

/-- Two neighbours in one word are both letters or both digits. -/
theorem same_kind_of_not_changes {left right : Char} {next : Option Piece}
    (asciiLeft : left.val < 128) (asciiRight : right.val < 128)
    (alphanumLeft : left.isAlphanum = true) (alphanumRight : right.isAlphanum = true)
    (within : changes [left] [right] next = false) :
    (left.isAlpha = true ∧ right.isAlpha = true) ∨
      (left.isDigit = true ∧ right.isDigit = true) := by
  have digit (c : Char) : isDigitPiece [c] = c.isDigit := by simp [isDigitPiece]
  rw [changes, isLowerPiece_ascii asciiLeft, isLowerPiece_ascii asciiRight,
    isUpperPiece_ascii asciiLeft, isUpperPiece_ascii asciiRight, digit, digit] at within
  simp only [Char.isAlphanum, Char.isAlpha] at *
  revert within alphanumLeft alphanumRight
  cases left.isUpper <;> cases left.isLower <;> cases left.isDigit <;> cases right.isUpper <;>
    cases right.isLower <;> cases right.isDigit <;> simp

theorem isAlpha_eq_false_of_isDigit {c : Char} (digit : c.isDigit = true) :
    c.isAlpha = false := by
  simp only [Char.isAlpha, Char.isUpper, Char.isLower, Char.isDigit, Bool.or_eq_false_iff,
    Bool.and_eq_true, Bool.and_eq_false_iff, decide_eq_true_eq, decide_eq_false_iff_not, ge_iff_le,
    UInt32.le_iff_toNat_le] at digit ⊢
  change 48 ≤ c.val.toNat ∧ c.val.toNat ≤ 57 at digit
  change ¬ (65 ≤ c.val.toNat ∧ c.val.toNat ≤ 90) ∧
    (¬ 97 ≤ c.val.toNat ∨ ¬ c.val.toNat ≤ 122)
  omega

theorem IsUniform.cons {c right : Char} {word : List Char} (uniform : IsUniform (right :: word))
    (same : (c.isAlpha = true ∧ right.isAlpha = true) ∨
      (c.isDigit = true ∧ right.isDigit = true)) : IsUniform (c :: right :: word) := by
  rcases uniform with letters | digits
  · rcases same with ⟨letter, -⟩ | ⟨-, digit⟩
    · exact .inl (List.forall_mem_cons.mpr ⟨letter, letters⟩)
    · have letter := letters right (by simp)
      rw [isAlpha_eq_false_of_isDigit digit] at letter
      cases letter
  · rcases same with ⟨-, letter⟩ | ⟨digit, -⟩
    · rw [isAlpha_eq_false_of_isDigit (digits right (by simp))] at letter
      cases letter
    · exact .inr (List.forall_mem_cons.mpr ⟨digit, digits⟩)

theorem uniform_splitWords {text : List Char} (plain : IsPlain text) :
    ∀ word ∈ splitWords (text.map fun c => [c]), IsUniform word := by
  induction text with
  | nil => simp [splitWords, IsUniform]
  | cons c rest ih =>
      obtain ⟨own, others⟩ := List.forall_mem_cons.mp plain
      rw [List.map_cons, splitWords.eq_def]
      cases score : isSeparator [c] with
      | true =>
          simp only [score, if_true, List.forall_mem_cons]
          exact ⟨.inl (by simp), ih others⟩
      | false =>
          have alphanum : c.isAlphanum = true := own.resolve_right (by rintro rfl; cases score)
          have single : IsUniform [c] := by
            simpa [IsUniform, Char.isAlphanum] using alphanum
          simp only [score, Bool.false_eq_true, if_false]
          cases rest with
          | nil => simpa [splitWords, consPiece] using single
          | cons right tail =>
              have ih := ih others
              rw [List.map_cons] at ih ⊢
              dsimp only
              split
              · exact List.forall_mem_cons.mpr ⟨single, ih⟩
              · rename_i within
                cases score' : isSeparator [right] with
                | true =>
                    rw [splitWords.eq_def] at ih ⊢
                    simp only [score', if_true, List.forall_mem_cons] at ih
                    simp only [score', if_true, consPiece, List.append_nil, List.forall_mem_cons]
                    exact ⟨single, ih.2⟩
                | false =>
                    have plainRight := List.forall_mem_cons.mp others
                    obtain ⟨word, words, split⟩ :=
                      splitWords_cons score' (tail.map fun c => [c])
                    rw [split, List.forall_mem_cons] at ih
                    rw [split, consPiece, List.forall_mem_cons]
                    refine ⟨ih.1.cons (same_kind_of_not_changes (ascii_of_plain own)
                      (ascii_of_plain plainRight.1) alphanum ?_ (by simpa using within)), ih.2⟩
                    exact plainRight.1.resolve_right (by rintro rfl; cases score')

theorem uniform_words {text : List Char} (plain : IsPlain text) :
    ∀ word ∈ words text, IsUniform word := by
  rw [words]
  split
  · simp
  · rw [clusters_ascii plain.ascii]
    exact uniform_splitWords plain

theorem IsUniform.ascii {word : List Char} (uniform : IsUniform word) :
    ∀ c ∈ word, c.val < 128 := by
  intro c member
  refine ascii_of_plain (.inl ?_)
  rcases uniform with letters | digits
  · simp [Char.isAlphanum, letters c member]
  · simp [Char.isAlphanum, digits c member]

/-! ### Words in lower case -/

/-- All small letters or all digits. -/
def IsSmall (word : List Char) : Prop :=
  (∀ c ∈ word, c.isLower = true) ∨ ∀ c ∈ word, c.isDigit = true

/-- A word with its first character in upper case. -/
def raised : List Char → List Char
  | [] => []
  | c :: rest => c.toUpper :: rest

theorem isUpper_eq_false_of_isDigit {c : Char} (digit : c.isDigit = true) : c.isUpper = false :=
  (Bool.or_eq_false_iff.mp (isAlpha_eq_false_of_isDigit digit)).1

theorem isSmall_lower {word : List Char} (uniform : IsUniform word) : IsSmall (lower word) := by
  rw [lower_ascii uniform.ascii]
  simp only [IsSmall, List.forall_mem_map]
  refine uniform.imp (fun letters c member => ?_) fun digits c member => ?_
  · rw [Char.isLower_toLower_eq_isAlpha]
    exact letters c member
  · rw [Char.toLower_eq_of_not_isUpper (by simp [isUpper_eq_false_of_isDigit (digits c member)])]
    exact digits c member

theorem capital_eq {word : List Char} (uniform : IsUniform word) :
    capital word = raised (lower word) := by
  have ascii := uniform.ascii
  cases word with
  | nil => rfl
  | cons c rest =>
      rw [lower_ascii ascii]
      rw [List.forall_mem_cons] at ascii
      rw [capital, upperChar_ascii ascii.1, lower_ascii ascii.2, List.map_cons, raised,
        Char.toUpper_toLower_eq_toUpper, List.singleton_append]

/-- A plain name in both of its forms. -/
theorem forms_of_plain {text : List Char} (plain : IsPlain text) :
    ∃ parts : List (List Char), (∀ part ∈ parts, IsSmall part) ∧
      snake text = ['_'].intercalate parts ∧ pascal text = parts.flatMap raised := by
  have uniform := uniform_words plain
  refine ⟨(words text).map lower, ?_, rfl, ?_⟩
  · rw [List.forall_mem_map]
    exact fun word member => isSmall_lower (uniform word member)
  · rw [pascal, List.flatMap_map, List.flatMap_def]
    exact congrArg List.flatten (List.map_congr_left fun word member =>
      capital_eq (uniform word member))

end SlotSum.Text
