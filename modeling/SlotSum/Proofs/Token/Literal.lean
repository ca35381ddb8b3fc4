import SlotSum.Proofs.Payload.Shown

/-!
Literals that stay literals. A number has no spaces to lose, and a text in quotes is one whichever
spaces it loses.
-/

namespace SlotSum

open Text (isIdentifierPart isIdentifierStart)
open Ty (isLoose Breaks tighten)

namespace Lexeme

section

variable {c : Char} {digits body text : List Char}

/-! ### Numbers -/

theorem toNat_of_isDigit (digit : c.isDigit = true) : 48 ≤ c.toNat ∧ c.toNat ≤ 57 := by
  simpa [Char.isDigit, UInt32.le_iff_toNat_le] using digit

theorem part_of_isDigit (digit : c.isDigit = true) : isIdentifierPart c = true := by
  have ascii : c.val < 128 := by
    have bound := (toNat_of_isDigit digit).2
    have value : c.toNat = c.val.toNat := rfl
    simp only [UInt32.lt_iff_toNat_lt, UInt32.reduceToNat]
    omega
  simp [isIdentifierPart, ascii, Char.isAlphanum, digit]

theorem part_of_isDigitOrScore (own : isDigitOrScore c = true) : isIdentifierPart c = true := by
  rw [isDigitOrScore, Bool.or_eq_true, beq_iff_eq] at own
  rcases own with digit | rfl
  · exact part_of_isDigit digit
  · decide

theorem suffix_of_breaks (breaks : Breaks text) : suffix text = ([], text) := by
  cases text with
  | nil => rfl
  | cons c rest =>
      have start : ¬ isIdentifierStart c = true := fun start => by
        have part := Text.isIdentifierPart_of_isIdentifierStart start
        rw [(isLoose_apart (breaks c rfl)).1] at part
        cases part
      simp [suffix, plainIdentifier, start]

/-- A number is whole where the text breaks off. -/
theorem withSuffix_of_breaks (breaks : Breaks text) :
    withSuffix (digits, text) = some (digits, text) := by
  have ends : text.head?.any isIdentifierPart = false := by
    cases text with
    | nil => rfl
    | cons c rest => exact (isLoose_apart (breaks c rfl)).1
  simp [withSuffix, suffix_of_breaks breaks, Cut.after, atWordBreak, ends]

theorem dropWhile_digits (own : ∀ d ∈ digits, d.isDigit = true) (breaks : Breaks text) :
    (digits ++ text).dropWhile isDigitOrScore = text := by
  rw [List.dropWhile_append_of_pos fun d member => by simp [isDigitOrScore, own d member]]
  cases text with
  | nil => rfl
  | cons c rest =>
      have other : ¬ isDigitOrScore c = true := fun own => by
        have part := part_of_isDigitOrScore own
        rw [(isLoose_apart (breaks c rfl)).1] at part
        cases part
      simp [other]

theorem float_digits (own : ∀ d ∈ digits, d.isDigit = true) (breaks : Breaks text) :
    float (digits ++ text) = none := by
  have none_ : floatDigits (digits ++ text) = none := by
    rw [floatDigits, dropWhile_digits own breaks]
    split
    · rfl
    · cases text with
      | nil => rfl
      | cons c rest =>
          have loose := breaks c rfl
          have point : c ≠ '.' := by rintro rfl; exact absurd loose (by decide)
          have exponent : ¬ (c = 'e' ∨ c = 'E') := by
            rintro (rfl | rfl) <;> exact absurd loose (by decide)
          split
          next eq => exact absurd (List.cons.inj eq).1 point
          next eq =>
            obtain ⟨rfl, -⟩ := List.cons.inj eq
            rw [if_neg exponent]
          next eq => cases eq
  rw [float, none_]
  rfl

theorem digitsIn_digits {seen : Bool} (own : ∀ d ∈ digits, d.isDigit = true)
    (some_ : seen = true ∨ digits ≠ []) (breaks : Breaks text) :
    digitsIn 10 seen (digits ++ text) = some (digits, text) := by
  induction digits generalizing seen with
  | nil =>
      obtain rfl : seen = true := some_.resolve_right (absurd rfl)
      cases text with
      | nil => rfl
      | cons c rest =>
          have apart := (isLoose_apart (breaks c rfl)).1
          have score : c ≠ '_' := by rintro rfl; exact absurd apart (by decide)
          have digit : c.isDigit = false := by
            cases digit : c.isDigit with
            | false => rfl
            | true => rw [part_of_isDigit digit] at apart; cases apart
          have hex : (isHexDigit c && decide (hexValue c < 10)) = false := by
            rw [Bool.and_eq_false_imp]
            intro hex
            simpa using le_hexValue hex digit
          simp [digitsIn, score, digit, hex]
  | cons d digits ih =>
      have digit := own d List.mem_cons_self
      have bounds := toNat_of_isDigit digit
      have score : d ≠ '_' := by rintro rfl; cases digit
      have small : hexValue d < 10 := by
        rw [hexValue, if_pos digit]
        omega
      have hex : isHexDigit d = true := by simp [isHexDigit, digit]
      have next : digitsIn 10 true (digits ++ text) = some (digits, text) :=
        ih (fun e member => own e (List.mem_cons_of_mem d member)) (.inl rfl)
      simp [digitsIn, score, digit, small, hex, next, Cut.after]

theorem literal_digits (own : ∀ d ∈ digits, d.isDigit = true) (some_ : digits ≠ [])
    (breaks : Breaks text) : literal (digits ++ text) = some (digits, text) := by
  obtain ⟨d, rest, rfl⟩ := List.exists_cons_of_ne_nil some_
  have digit := own d List.mem_cons_self
  obtain ⟨quote, apostrophe, b, r, c⟩ :
      '"' ≠ d ∧ '\'' ≠ d ∧ 'b' ≠ d ∧ 'r' ≠ d ∧ 'c' ≠ d := by
    refine ⟨?_, ?_, ?_, ?_, ?_⟩ <;> rintro rfl <;> cases digit
  have noFloat := float_digits own breaks
  have based (second : Char) (plain : isIdentifierPart second = true)
      (letter : second.isDigit = false) : ¬ ['0', second] <+: d :: rest ++ text := by
    intro begins
    obtain ⟨rest', eq⟩ := prefix_of_parts (by simp [plain, part_of_isDigit]) breaks begins
    have member : second ∈ d :: rest := by simp [eq]
    rw [own second member] at letter
    cases letter
  have decimal : integerDigits (d :: rest ++ text) = some (d :: rest, text) := by
    rw [integerDigits, startsWith_eq_false "0x" (based 'x' (by decide) (by decide)),
      startsWith_eq_false "0o" (based 'o' (by decide) (by decide)),
      startsWith_eq_false "0b" (based 'b' (by decide) (by decide))]
    exact digitsIn_digits own (.inr some_) breaks
  rw [literal_of_unquoted, noFloat, Option.none_or, integer, decimal, Option.bind_some,
    withSuffix_of_breaks breaks]
  · intro letters member
    simp only [List.mem_cons, List.not_mem_nil, or_false] at member
    rcases member with rfl | rfl | rfl <;>
      exact ⟨by simp [quote, b, c], by simp [r.symm, b.symm, c.symm]⟩
  · simp [b]
  · rw [Lexeme.character, andThen_eq_none (exactly_eq_none (by simp [apostrophe]))]
    simp

/-! ### Texts -/

/-- The characters stand for themselves between quotes. -/
def IsVerbatim (body : List Char) : Prop := ∀ c ∈ body, c ∉ ['"', '\\', '\r']

theorem cookedTail_verbatim (verbatim : IsVerbatim body) {turns : Nat}
    (enough : body.length < turns) :
    cookedTail .text turns (body ++ '"' :: text) = some (body ++ ['"'], text) := by
  induction body generalizing turns with
  | nil =>
      obtain ⟨turns, rfl⟩ : ∃ before, turns = before + 1 := ⟨turns - 1, by omega⟩
      rfl
  | cons c body ih =>
      obtain ⟨turns, rfl⟩ : ∃ before, turns = before + 1 := ⟨turns - 1, by omega⟩
      have next := ih (fun d member => verbatim d (List.mem_cons_of_mem c member))
        (Nat.lt_of_succ_lt_succ enough)
      have own := verbatim c List.mem_cons_self
      simp only [List.mem_cons, List.not_mem_nil, or_false, not_or] at own
      rw [List.cons_append, cookedTail, next]
      · simp [Content.admits, Cut.after]
      all_goals simp [own]

theorem literal_verbatim (verbatim : IsVerbatim body) (breaks : Breaks text) :
    literal ('"' :: (body ++ '"' :: text)) = some ('"' :: (body ++ ['"']), text) := by
  have whole : string .text "" ('"' :: (body ++ '"' :: text)) =
      some ('"' :: (body ++ ['"']), text) := by
    have read : cooked .text (body ++ '"' :: text) = some (body ++ ['"'], text) :=
      cookedTail_verbatim verbatim (by
        rw [List.length_append]
        omega)
    simp [string, startsWith, andThen, exactly, read, Cut.after]
  simp [literal, firstOf, whole, suffix_of_breaks breaks, Cut.after]

end

end Lexeme

/-! ### Literals that may be shown -/

theorem isLiteral_digits {digits : List Char} (own : ∀ d ∈ digits, d.isDigit = true)
    (some_ : digits ≠ []) : IsLiteral digits where
  begins := by
    obtain ⟨d, rest, rfl⟩ := List.exists_cons_of_ne_nil some_
    exact ⟨d, rest, rfl, .inl (Lexeme.part_of_isDigit (own d List.mem_cons_self))⟩
  reads _ breaks := Lexeme.literal_digits own some_ breaks

theorem isLiteral_verbatim {body : List Char} (verbatim : Lexeme.IsVerbatim body) :
    IsLiteral ('"' :: (body ++ ['"'])) where
  begins := ⟨'"', _, rfl, .inr (.inl rfl)⟩
  reads after breaks := by
    have whole := Lexeme.literal_verbatim verbatim breaks
    simpa using whole

theorem isShowable_digits {digits : List Char} (own : ∀ d ∈ digits, d.isDigit = true)
    (some_ : digits ≠ []) : IsShowable digits := by
  have firm : ∀ d ∈ digits, isLoose d = false := fun d member =>
    isLoose_of_part (Lexeme.part_of_isDigit (own d member))
  refine ⟨fun d head => firm d (List.mem_of_mem_head? head),
    fun d last => firm d (List.mem_of_getLast? last), ?_⟩
  rw [Ty.tighten_of_unspaced (not_mem_of_firm firm)]
  exact isLiteral_digits own some_

/-- Spaces that a text in quotes loses leave a text in quotes. -/
theorem isShowable_verbatim {body : List Char} (verbatim : Lexeme.IsVerbatim body) :
    IsShowable ('"' :: (body ++ ['"'])) := by
  have quote : isLoose '"' = false := by decide
  have last : ('"' :: (body ++ ['"'])).getLast? = some '"' := by
    rw [← List.cons_append, List.getLast?_concat]
  refine ⟨by simp [quote], by simp [last, quote], ?_⟩
  rw [Ty.tighten_cons (by decide), Ty.tighten_around (by decide), Ty.tighten_nil]
  exact isLiteral_verbatim fun c member => verbatim c ((Ty.sheds_tighten body).subset member)

end SlotSum
