import SlotSum.Text.Replace

/-!
Replacements that drop blanks. They change nothing else in a text, and no occurrence reaches over a
character that the pattern does not have, so the text on either side of one is replaced on its own.
-/

namespace SlotSum.Text

/-- The second text is the first without some of its blanks. -/
inductive Sheds : List Char → List Char → Prop
  | nil : Sheds [] []
  | keep (c : Char) (rest : Sheds text text') : Sheds (c :: text) (c :: text')
  | drop (rest : Sheds text text') : Sheds (' ' :: text) text'

namespace Sheds

theorem refl : (text : List Char) → Sheds text text
  | [] => .nil
  | c :: rest => .keep c (refl rest)

theorem append {before before' after after' : List Char} (first : Sheds before before')
    (second : Sheds after after') : Sheds (before ++ after) (before' ++ after') := by
  induction first with
  | nil => exact second
  | keep c _ ih => exact .keep c ih
  | drop _ ih => exact .drop ih

theorem trans {text text' text'' : List Char} (first : Sheds text text')
    (second : Sheds text' text'') : Sheds text text'' := by
  induction first generalizing text'' with
  | nil => exact second
  | keep c _ ih =>
      cases second with
      | keep _ second => exact .keep c (ih second)
      | drop second => exact .drop (ih second)
  | drop _ ih => exact .drop (ih second)

theorem subset {text text' : List Char} (sheds : Sheds text text') : text' ⊆ text := by
  induction sheds with
  | nil => exact List.Subset.refl []
  | keep c _ ih => exact List.cons_subset_cons c ih
  | drop _ ih => exact List.subset_cons_of_subset ' ' ih

theorem length_le {text text' : List Char} (sheds : Sheds text text') :
    text'.length ≤ text.length := by
  induction sheds with
  | nil => exact Nat.le_refl 0
  | keep _ _ ih => exact Nat.succ_le_succ ih
  | drop _ ih => exact Nat.le_succ_of_le ih

theorem eq_of_length {text text' : List Char} (sheds : Sheds text text')
    (same : text.length ≤ text'.length) : text' = text := by
  induction sheds with
  | nil => rfl
  | keep c _ ih => rw [ih (Nat.le_of_succ_le_succ same)]
  | drop rest _ => exact absurd (Nat.lt_of_lt_of_le same rest.length_le) (Nat.lt_irrefl _)

/-- A text without blanks has none to drop. -/
theorem eq_of_unspaced {text text' : List Char} (sheds : Sheds text text')
    (unspaced : ' ' ∉ text) : text' = text := by
  induction sheds with
  | nil => rfl
  | keep c _ ih => rw [ih fun member => unspaced (List.mem_cons_of_mem c member)]
  | drop => exact absurd List.mem_cons_self unspaced

end Sheds

/-! ### Replacing -/

variable {pattern replacement : List Char}

theorem replaceFrom_skip (skip : Nat) (text : List Char) :
    replaceFrom pattern replacement skip text =
      replaceFrom pattern replacement 0 (text.drop skip) := by
  induction skip generalizing text with
  | zero => rfl
  | succ skip ih =>
      cases text with
      | nil => rfl
      | cons c rest => exact ih rest

/-- An occurrence in front is replaced, and what follows it is replaced on its own. -/
theorem replaceFrom_append (some_ : pattern ≠ []) (rest : List Char) :
    replaceFrom pattern replacement 0 (pattern ++ rest) =
      replacement ++ replaceFrom pattern replacement 0 rest := by
  cases pattern with
  | nil => exact absurd rfl some_
  | cons c tail =>
      have here : (c :: tail).isPrefixOf (c :: (tail ++ rest)) = true :=
        List.isPrefixOf_iff_prefix.mpr ⟨rest, rfl⟩
      rw [List.cons_append, replaceFrom, if_pos here, replaceFrom_skip]
      simp

/-- Replacing goes through a text occurrence by occurrence. -/
theorem replaceFrom_induction {holds : List Char → Prop} (some_ : pattern ≠ []) (nil : holds [])
    (found : ∀ rest, holds rest → holds (pattern ++ rest))
    (passed : ∀ c rest, ¬ pattern <+: c :: rest → holds rest → holds (c :: rest))
    (text : List Char) : holds text := by
  induction size : text.length using Nat.strongRecOn generalizing text with
  | _ size ih =>
      subst size
      cases text with
      | nil => exact nil
      | cons c rest =>
          by_cases here : pattern <+: c :: rest
          · obtain ⟨after, eq⟩ := here
            have shorter : after.length < (c :: rest).length := by
              have own : 0 < pattern.length := List.length_pos_iff.mpr some_
              rw [← eq, List.length_append]
              omega
            rw [← eq]
            exact found after (ih _ shorter after rfl)
          · exact passed c rest here (ih _ (Nat.lt_succ_self _) rest rfl)

theorem replaceFrom_passed {c : Char} {rest : List Char} (absent : ¬ pattern <+: c :: rest) :
    replaceFrom pattern replacement 0 (c :: rest) =
      c :: replaceFrom pattern replacement 0 rest := by
  rw [replaceFrom, if_neg (by rwa [List.isPrefixOf_iff_prefix])]

theorem sheds_replaceFrom (some_ : pattern ≠ []) (sheds : Sheds pattern replacement)
    (text : List Char) : Sheds text (replaceFrom pattern replacement 0 text) := by
  induction text using replaceFrom_induction some_ with
  | nil => exact .nil
  | found rest ih =>
      rw [replaceFrom_append some_]
      exact sheds.append ih
  | passed c rest absent ih =>
      rw [replaceFrom_passed absent]
      exact .keep c ih

theorem replaceFrom_ne_nil (some_ : pattern ≠ []) (some' : replacement ≠ []) {text : List Char}
    (some'' : text ≠ []) : replaceFrom pattern replacement 0 text ≠ [] := by
  cases text with
  | nil => exact absurd rfl some''
  | cons c rest =>
      by_cases here : pattern <+: c :: rest
      · obtain ⟨after, eq⟩ := here
        rw [← eq, replaceFrom_append some_]
        simp [some']
      · rw [replaceFrom_passed here]
        simp

/-- No occurrence reaches over a character that the pattern does not have. -/
theorem replaceFrom_around {c : Char} (some_ : pattern ≠ []) (foreign : c ∉ pattern)
    (before after : List Char) :
    replaceFrom pattern replacement 0 (before ++ c :: after) =
      replaceFrom pattern replacement 0 before ++
        c :: replaceFrom pattern replacement 0 after := by
  induction before using replaceFrom_induction some_ with
  | nil =>
      have absent : ¬ pattern <+: c :: after := by
        rintro ⟨rest, eq⟩
        cases pattern with
        | nil => exact some_ rfl
        | cons d tail => exact foreign (by simp [(List.cons.inj eq).1])
      exact replaceFrom_passed absent
  | found rest ih =>
      rw [List.append_assoc, replaceFrom_append some_, replaceFrom_append some_, ih,
        List.append_assoc]
  | passed d rest absent ih =>
      have absent' : ¬ pattern <+: d :: (rest ++ c :: after) := by
        intro here
        have longer : d :: rest ++ [c] <+: d :: (rest ++ c :: after) := ⟨after, by simp⟩
        rcases List.prefix_or_prefix_of_prefix here longer with short | long
        · rcases List.prefix_concat_iff.mp short with rfl | short
          · exact foreign (by simp)
          · exact absent short
        · exact foreign (long.subset (by simp))
      rw [List.cons_append, replaceFrom_passed absent', replaceFrom_passed absent, ih]
      rfl

end SlotSum.Text
