import Mathlib.Data.List.TakeDrop
import Mathlib.Data.List.TakeWhile
import SlotSum.Wire.Scan

/-!
Numbers on the wire. What follows a number does not enter it as long as it cannot go on with it,
and every integer of 64 bits is read back from its text.
-/

namespace SlotSum

namespace Scan

/-- What may stand behind a value: nothing, a comma or a closing bracket. -/
def Follows (rest : List Char) : Prop := ∀ c ∈ rest.head?, c = ',' ∨ c = ']' ∨ c = '\x7d'

theorem follows_nil : Follows [] := by simp [Follows]

theorem follows_cons {c : Char} (rest : List Char) (mark : c = ',' ∨ c = ']' ∨ c = '\x7d') :
    Follows (c :: rest) := by
  simpa [Follows] using mark

theorem Follows.not_number {c : Char} {rest : List Char} (follows : Follows (c :: rest)) :
    c.isDigit = false ∧ c ≠ '.' ∧ c ≠ 'e' ∧ c ≠ 'E' := by
  rcases follows c rfl with rfl | rfl | rfl <;> decide

variable {rest : List Char}

/-! ### Numbers in front of other text -/

theorem takeDigits_append (text : List Char) (follows : Follows rest) :
    takeDigits (text ++ rest) = ((takeDigits text).1, (takeDigits text).2 ++ rest) := by
  simp only [takeDigits, List.span_eq_takeWhile_dropWhile]
  induction text with
  | nil =>
      cases rest with
      | nil => rfl
      | cons c rest => simp [follows.not_number.1]
  | cons c text ih =>
      cases digit : c.isDigit with
      | false => simp [digit]
      | true => simpa [digit] using ih

theorem fraction_append {text after : List Char} {places : Option (List Char)}
    (found : fraction text = some (places, after)) (follows : Follows rest) :
    fraction (text ++ rest) = some (places, after ++ rest) := by
  by_cases point : ∃ tail, text = '.' :: tail
  · obtain ⟨tail, rfl⟩ := point
    rw [List.cons_append, fraction, takeDigits_append tail follows]
    rw [fraction] at found
    split at found
    · cases found
    · rename_i digits after' some taken
      simp only [Option.some.injEq, Prod.mk.injEq] at found
      obtain ⟨rfl, rfl⟩ := found
      simp [taken]
  · have here : ∀ tail, text ≠ '.' :: tail := fun tail same => point ⟨tail, same⟩
    rw [fraction.eq_2 text here, Option.some.injEq, Prod.mk.injEq] at found
    obtain ⟨rfl, rfl⟩ := found
    refine fraction.eq_2 _ fun tail same => ?_
    cases text with
    | nil =>
        rw [List.nil_append] at same
        exact (same ▸ follows).not_number.2.1 rfl
    | cons c text =>
        rw [List.cons_append, List.cons.injEq] at same
        exact here text (by rw [same.1])

theorem sign_append {text : List Char} (some : text ≠ []) :
    sign (text ++ rest) = ((sign text).1, (sign text).2 ++ rest) := by
  cases text with
  | nil => exact absurd rfl some
  | cons c text =>
      unfold sign
      simp only [List.cons_append]
      split <;> simp_all

theorem exponent_append {text after : List Char} {power : Option Int}
    (found : exponent text = some (power, after)) (follows : Follows rest) :
    exponent (text ++ rest) = some (power, after ++ rest) := by
  cases text with
  | nil =>
      simp only [exponent, Option.some.injEq, Prod.mk.injEq] at found
      obtain ⟨rfl, rfl⟩ := found
      cases rest with
      | nil => rfl
      | cons c rest =>
          obtain ⟨-, -, small, large⟩ := follows.not_number
          simp [exponent, small, large]
  | cons mark text =>
      rw [List.cons_append]
      unfold exponent at found ⊢
      simp only at found ⊢
      split at found
      · rename_i marked
        rw [if_pos marked]
        cases text with
        | nil => simp [sign, takeDigits] at found
        | cons c text =>
            rw [sign_append (List.cons_ne_nil c text)]
            simp only [takeDigits_append _ follows]
            split at found
            · cases found
            · rename_i digits after' some taken
              simp only [Option.some.injEq, Prod.mk.injEq] at found
              obtain ⟨rfl, rfl⟩ := found
              simp [taken]
      · rename_i unmarked
        rw [if_neg unmarked]
        simp only [Option.some.injEq, Prod.mk.injEq] at found
        obtain ⟨rfl, rfl⟩ := found
        rfl

theorem numeral_append {negative : Bool} {text after : List Char} {number : Number}
    (found : numeral negative text = some (number, after)) (follows : Follows rest) :
    numeral negative (text ++ rest) = some (number, after ++ rest) := by
  unfold numeral at found ⊢
  rw [takeDigits_append text follows]
  split at found
  · cases found
  · cases found
  · rename_i whole behind some noZero taken
    simp only [Option.bind_eq_bind, Option.bind_eq_some_iff, Option.pure_def, Option.some.injEq,
      Prod.mk.injEq, Prod.exists] at found
    obtain ⟨places, behind', point, power, behind'', mark, rfl, rfl⟩ := found
    rw [taken]
    split
    · rename_i same
      exact (some (Prod.mk.inj same).1).elim
    · rename_i same
      exact (noZero _ _ (Prod.mk.inj same).1).elim
    · rename_i same
      simp only [Prod.mk.injEq] at same
      obtain ⟨rfl, rfl⟩ := same
      simp [fraction_append point follows, exponent_append mark follows]

theorem isDigit_of_numeral {negative : Bool} {text after : List Char} {number : Number}
    (found : numeral negative text = some (number, after)) :
    ∃ c tail, text = c :: tail ∧ c.isDigit = true := by
  cases text with
  | nil => simp [numeral, takeDigits] at found
  | cons c tail =>
      refine ⟨c, tail, rfl, ?_⟩
      cases digit : c.isDigit with
      | true => rfl
      | false =>
          simp [numeral, takeDigits, List.span_eq_takeWhile_dropWhile, digit] at found

/-! ### Integers -/

theorem absorb_of_le {digits : List Char} {significand : Nat}
    (fits : Nat.ofDigitChars 10 digits significand ≤ greatestSignificand) :
    absorb significand digits = (Nat.ofDigitChars 10 digits significand, digits.length) := by
  induction digits generalizing significand with
  | nil => rfl
  | cons digit rest ih =>
      rw [Nat.ofDigitChars_cons] at fits ⊢
      change Nat.ofDigitChars 10 rest (10 * significand + digitValue digit) ≤ _ at fits
      have shifted : Nat.ofDigitChars 10 rest (10 * significand + digitValue digit) =
          10 ^ rest.length * (10 * significand + digitValue digit) +
            Nat.ofDigitChars 10 rest 0 :=
        Nat.ofDigitChars_eq_ofDigitChars_zero
      have grows : 10 * significand + digitValue digit ≤
          10 ^ rest.length * (10 * significand + digitValue digit) :=
        Nat.le_mul_of_pos_left _ (Nat.pow_pos (by decide))
      rw [absorb, if_pos (by omega), ih fits]
      rfl

theorem toDigits_ne_zero_cons (value : Nat) (next : Char) (tail : List Char) :
    Nat.toDigits 10 value ≠ '0' :: next :: tail := by
  induction value using Nat.strongRecOn generalizing next tail with
  | ind value ih =>
      rw [Nat.toDigits_eq_if (by decide)]
      split
      · simp
      · rename_i large
        have back := Nat.ofDigitChars_ten_toDigits (n := value / 10)
        have shorter := ih (value / 10) (by omega)
        intro same
        match above : Nat.toDigits 10 (value / 10) with
        | [] => exact Nat.toDigits_ne_nil above
        | [first] =>
            rw [above, List.singleton_append, List.cons.injEq] at same
            rw [above, same.1] at back
            have zero : Nat.ofDigitChars 10 ['0'] 0 = 0 := by decide
            omega
        | first :: second :: more =>
            rw [above, List.cons_append, List.cons.injEq] at same
            exact shorter second more (by rw [above, same.1])

theorem numeral_toDigits (negative : Bool) (value : Nat) :
    numeral negative (Nat.toDigits 10 value) =
      some (Numeral.number ⟨negative, Nat.toDigits 10 value, none, none⟩, []) := by
  have digits : ∀ c ∈ Nat.toDigits 10 value, c.isDigit = true := fun c member =>
    Nat.isDigit_of_mem_toDigits (by decide) (by decide) member
  have taken : takeDigits (Nat.toDigits 10 value) = (Nat.toDigits 10 value, []) := by
    rw [takeDigits, List.span_eq_takeWhile_dropWhile, List.takeWhile_eq_self_iff.mpr digits,
      List.dropWhile_eq_nil_iff.mpr digits]
  unfold numeral
  rw [taken]
  split
  · rename_i same
    exact absurd (Prod.mk.inj same).1 Nat.toDigits_ne_nil
  · rename_i same
    exact absurd (Prod.mk.inj same).1 (toDigits_ne_zero_cons value _ _)
  · rename_i same
    obtain ⟨rfl, rfl⟩ := Prod.mk.inj same
    rfl

theorem absorb_toDigits {value : Nat} (fits : value ≤ greatestSignificand) :
    absorb 0 (Nat.toDigits 10 value) = (value, (Nat.toDigits 10 value).length) := by
  rw [absorb_of_le, Nat.ofDigitChars_ten_toDigits]
  rwa [Nat.ofDigitChars_ten_toDigits]

theorem number_nonnegative {value : Nat} (fits : value ≤ greatestSignificand) :
    Numeral.number ⟨false, Nat.toDigits 10 value, none, none⟩ = .integer value := by
  simp [Numeral.number, absorb_toDigits fits]

theorem number_negative {value : Nat} (some : 0 < value) (fits : value ≤ 1 <<< 63) :
    Numeral.number ⟨true, Nat.toDigits 10 value, none, none⟩ = .integer (-value) := by
  have all := absorb_toDigits (Nat.le_trans fits (by decide))
  have inside : (decide (0 < value) && decide (value ≤ 1 <<< 63)) = true := by
    rw [decide_eq_true some, decide_eq_true fits, Bool.and_self]
  simp only [Numeral.number, all, inside]
  simp

end Scan

/-- A number is read back from its own text. -/
def Number.IsFaithful (number : Number) : Prop :=
  ∃ negative text, (Json.numberText number).toList = (if negative then '-' :: text else text) ∧
    Scan.numeral negative text = some (number, [])

theorem Number.isFaithful_integer {value : Int} (least : -((1 <<< 63 : Nat) : Int) ≤ value)
    (greatest : value ≤ Scan.greatestSignificand) : (Number.integer value).IsFaithful := by
  have text : (Json.numberText (.integer value)).toList =
      if 0 ≤ value then Nat.toDigits 10 value.toNat
      else '-' :: Nat.toDigits 10 (-value).toNat := by
    rw [Json.numberText, Int.toString_eq_repr, Int.repr_eq_if]
    split <;> simp
  by_cases positive : 0 ≤ value
  · refine ⟨false, Nat.toDigits 10 value.toNat, by rw [text, if_pos positive]; rfl, ?_⟩
    rw [Scan.numeral_toDigits, Scan.number_nonnegative (by omega), Int.toNat_of_nonneg positive]
  · refine ⟨true, Nat.toDigits 10 (-value).toNat, by rw [text, if_neg positive]; rfl, ?_⟩
    rw [Scan.numeral_toDigits, Scan.number_negative (by omega) (by omega),
      Int.toNat_of_nonneg (by omega), Int.neg_neg]

end SlotSum
