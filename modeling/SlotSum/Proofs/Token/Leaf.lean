import Mathlib.Data.List.TakeWhile
import SlotSum.Proofs.Payload.Tighten
import SlotSum.Token.Lexer

/-!
Words, operators and literals at the front of a text. Behind a word or a literal the text breaks off
with a character that belongs to neither; then each of them is read as just one leaf, or an operator
as one mark for each of its characters.
-/

namespace SlotSum

open Text (isIdentifierStart isIdentifierPart)
open Ty (isLoose Breaks)

/-! ### Characters -/

/-- Loose characters are no part of words and literals. -/
theorem isLoose_apart {c : Char} (loose : isLoose c = true) :
    isIdentifierPart c = false ∧ c ∉ "\"'#./*".toList := by
  have each : ∀ d ∈ " :<>,&;[]()".toList, isIdentifierPart d = false ∧ d ∉ "\"'#./*".toList :=
    List.all_iff_forall_prop.mp (by decide)
  exact each c (by simpa [isLoose] using loose)

namespace Lexeme

/-- No word and no literal begins with a blank. -/
theorem isSpace_of_part {c : Char} (part : isIdentifierPart c = true) : isSpace c = false := by
  have apart : ∀ range ∈ (0x200E, 0x200F) :: Text.blankRanges, ∀ k < range.2 + 1 - range.1,
      isIdentifierPart (Char.ofNat (range.1 + k)) = false := by
    decide +kernel
  have outside (range : Nat × Nat) (member : range ∈ (0x200E, 0x200F) :: Text.blankRanges) :
      ¬ (range.1 ≤ c.toNat ∧ c.toNat ≤ range.2) := by
    rintro ⟨low, high⟩
    have none_ := apart range member (c.toNat - range.1) (by omega)
    rw [Nat.add_sub_cancel' low, Char.ofNat_toNat, part] at none_
    cases none_
  have mark := outside _ List.mem_cons_self
  have blank : Text.isBlank c = false := by
    simp only [Text.isBlank, Text.inRanges, List.any_eq_false, Bool.and_eq_true,
      decide_eq_true_eq]
    exact fun range member => outside range (List.mem_cons_of_mem _ member)
  simp only [isSpace, blank, Bool.false_or, Bool.or_eq_false_iff, beq_eq_false_iff_ne]
  simp only at mark
  omega

end Lexeme

/-! ### Words -/

/-- An identifier, raw or not. -/
inductive IsWord : List Char → Prop
  | plain (starts : isIdentifierStart c = true)
      (goesOn : ∀ d ∈ rest, isIdentifierPart d = true) : IsWord (c :: rest)
  | raw (starts : isIdentifierStart c = true) (goesOn : ∀ d ∈ rest, isIdentifierPart d = true)
      (allowed : c :: rest ∉ Lexeme.neverRaw) : IsWord ('r' :: '#' :: c :: rest)

theorem IsWord.cases_head {word : List Char} (isWord : IsWord word) :
    ∃ c rest, word = c :: rest ∧ isIdentifierStart c = true := by
  cases isWord with
  | plain starts => exact ⟨_, _, rfl, starts⟩
  | raw => exact ⟨_, _, rfl, by decide⟩

/-- All characters of a word are parts of identifiers, but for the sign of a raw one. -/
theorem IsWord.part {word : List Char} (isWord : IsWord word) :
    ∀ c ∈ word, isIdentifierPart c = true ∨ c = '#' := by
  cases isWord with
  | plain starts goesOn =>
      intro c member
      rcases List.mem_cons.mp member with rfl | member
      · exact .inl (Text.isIdentifierPart_of_isIdentifierStart starts)
      · exact .inl (goesOn c member)
  | raw starts goesOn _ =>
      intro c member
      simp only [List.mem_cons] at member
      rcases member with rfl | rfl | rfl | member
      · exact .inl (by decide)
      · exact .inr rfl
      · exact .inl (Text.isIdentifierPart_of_isIdentifierStart starts)
      · exact .inl (goesOn c member)

namespace Lexeme

section

variable {c : Char} {word text : List Char}

/-- The text does not go on as a literal or a raw word would. -/
def Calm (text : List Char) : Prop := ∀ d ∈ text.head?, d ∉ "\"'#./*".toList

theorem calm_append (own : ∀ d ∈ word, isIdentifierPart d = true) (breaks : Breaks text) :
    Calm (word ++ text) := by
  have signs : ∀ q ∈ "\"'#./*".toList, isIdentifierPart q = false :=
    List.all_iff_forall_prop.mp (by decide)
  intro d member sign
  cases word with
  | nil => exact (isLoose_apart (breaks d member)).2 sign
  | cons e word =>
      obtain rfl : e = d := by simpa using member
      have other := signs e sign
      rw [own e List.mem_cons_self] at other
      cases other

/-- Parts of an identifier that begin a word with what follows it belong to the word. -/
theorem prefix_of_parts {letters : List Char} (parts : ∀ l ∈ letters, isIdentifierPart l = true)
    (breaks : Breaks text) (begins : letters <+: word ++ text) : ∃ rest, word = letters ++ rest := by
  induction letters generalizing word with
  | nil => exact ⟨word, rfl⟩
  | cons l letters ih =>
      obtain ⟨after, eq⟩ := begins
      cases word with
      | nil =>
          have loose := breaks l (by rw [List.nil_append] at eq; rw [← eq]; rfl)
          have own := parts l List.mem_cons_self
          rw [(isLoose_apart loose).1] at own
          cases own
      | cons d word =>
          obtain ⟨rfl, eq'⟩ := List.cons.inj eq
          obtain ⟨rest, rfl⟩ : ∃ rest, word = letters ++ rest :=
            ih (fun l member => parts l (List.mem_cons_of_mem _ member)) ⟨after, eq'⟩
          exact ⟨rest, rfl⟩

/-- No quote and no sign of a raw word follows parts of an identifier. -/
theorem not_prefix_of_parts (letters : List Char) {q : Char} (more : List Char)
    (parts : letters.all isIdentifierPart = true) (sign : q ∈ "\"'#./*".toList)
    (own : ∀ d ∈ word, isIdentifierPart d = true) (breaks : Breaks text) :
    ¬ letters ++ q :: more <+: word ++ text := by
  intro begins
  obtain ⟨rest, rfl⟩ := prefix_of_parts (List.all_eq_true.mp parts) breaks
    ((List.prefix_append _ _).trans begins)
  obtain ⟨after, eq⟩ := begins
  simp only [List.append_assoc, List.append_cancel_left_eq] at eq
  have calm := calm_append (fun d member => own d (List.mem_append_right _ member)) breaks
  exact calm q (by rw [← eq]; rfl) sign

theorem plainIdentifier_append {rest : List Char}
    (starts : isIdentifierStart c = true) (goesOn : ∀ d ∈ rest, isIdentifierPart d = true)
    (breaks : Breaks text) : plainIdentifier (c :: (rest ++ text)) = some (c :: rest, text) := by
  have stops : ∀ d ∈ text.head?, isIdentifierPart d = false := fun d member =>
    (isLoose_apart (breaks d member)).1
  have taken : text.takeWhile isIdentifierPart = [] ∧ text.dropWhile isIdentifierPart = text := by
    cases text with
    | nil => exact ⟨rfl, rfl⟩
    | cons d after => simp [stops d rfl]
  rw [plainIdentifier, if_pos starts, List.takeWhile_append_of_pos goesOn,
    List.dropWhile_append_of_pos goesOn, taken.1, taken.2, List.append_nil]

theorem startsWith_eq_false (front : String) (absent : ¬ front.toList <+: text) :
    startsWith front text = false := by
  rw [startsWith, Bool.eq_false_iff]
  exact fun begins => absent (List.isPrefixOf_iff_prefix.mp begins)

theorem exactly_eq_none {front : List Char} (absent : ¬ front <+: text) :
    exactly front text = none := by
  rw [exactly, if_neg]
  exact fun begins => absent (List.isPrefixOf_iff_prefix.mp begins)

theorem rawOrPlainIdentifier_append (isWord : IsWord word)
    (breaks : Breaks text) : rawOrPlainIdentifier (word ++ text) = some (word, text) := by
  have own := isWord.part
  cases isWord with
  | @plain c rest starts goesOn =>
      have own : ∀ d ∈ c :: rest, isIdentifierPart d = true := by
        simpa [Text.isIdentifierPart_of_isIdentifierStart starts] using goesOn
      have unmarked : startsWith "r#" (c :: rest ++ text) = false :=
        startsWith_eq_false _ (not_prefix_of_parts ['r'] [] (by decide) (by decide) own
          breaks)
      rw [rawOrPlainIdentifier, if_neg (by rw [unmarked]; exact Bool.false_ne_true)]
      exact plainIdentifier_append starts goesOn breaks
  | @raw c rest starts goesOn allowed =>
      have marked : startsWith "r#" ('r' :: '#' :: c :: rest ++ text) = true :=
        List.isPrefixOf_iff_prefix.mpr ⟨c :: rest ++ text, rfl⟩
      have read := plainIdentifier_append starts goesOn breaks
      rw [rawOrPlainIdentifier, if_pos marked]
      simp only [List.cons_append, List.drop_succ_cons, List.drop_zero, read]
      simp [allowed]

/-- How every opening of a quoted literal comes apart. -/
theorem exists_sign_of_mem {opening : String} (member : opening ∈ literalOpenings) :
    ∃ letters q more, opening.toList = letters ++ q :: more ∧
      (∀ l ∈ letters, isIdentifierPart l = true) ∧ q ∈ "\"'#./*".toList := by
  have each : ∀ opening ∈ literalOpenings, ∃ n < 3, "\"'#./*".toList.any (fun q =>
      (opening.toList.take n).all isIdentifierPart &&
        opening.toList.drop n == q :: opening.toList.drop (n + 1)) = true := by
    decide
  obtain ⟨n, -, each⟩ := each opening member
  obtain ⟨q, sign, each⟩ := List.any_eq_true.mp each
  obtain ⟨parts, eq⟩ : (∀ l ∈ opening.toList.take n, isIdentifierPart l = true) ∧
      opening.toList.drop n = q :: opening.toList.drop (n + 1) := by
    simpa only [Bool.and_eq_true, List.all_eq_true, beq_iff_eq] using each
  refine ⟨opening.toList.take n, q, opening.toList.drop (n + 1), ?_, parts, sign⟩
  rw [← eq, List.take_append_drop]

theorem identifier_append (isWord : IsWord word) (breaks : Breaks text) :
    identifier (word ++ text) = some (word, text) := by
  have none_ : literalOpenings.any (startsWith · (word ++ text)) = false := by
    rw [List.any_eq_false]
    intro opening member
    rw [Bool.not_eq_true]
    apply startsWith_eq_false
    cases isWord with
    | @plain c rest starts goesOn =>
        obtain ⟨letters, q, more, eq, parts, sign⟩ := exists_sign_of_mem member
        rw [eq]
        refine not_prefix_of_parts letters more (List.all_eq_true.mpr parts) sign ?_ breaks
        simpa [Text.isIdentifierPart_of_isIdentifierStart starts] using goesOn
    | @raw c rest starts goesOn allowed =>
        have signs : ∀ q ∈ "\"'#./*".toList, isIdentifierStart q = false :=
          List.all_iff_forall_prop.mp (by decide)
        have other : c ≠ '"' ∧ c ≠ '#' := by
          constructor <;> rintro rfl <;> cases starts
        simp only [literalOpenings, List.mem_cons, List.not_mem_nil, or_false] at member
        rcases member with rfl | rfl | rfl | rfl | rfl | rfl | rfl | rfl | rfl | rfl <;>
          simp [other.1.symm, other.2.symm]
  rw [identifier, none_]
  exact rawOrPlainIdentifier_append isWord breaks

/-! ### No literals -/

theorem andThen_eq_none {first second : Reader} (none_ : first text = none) :
    andThen first second text = none := by
  rw [andThen, none_]

theorem raw_eq_none {content : Content}
    (unquoted : (text.dropWhile (· = '#')).head? ≠ some '"') : raw content text = none := by
  rw [raw]
  split
  next rest eq => exact absurd (by rw [eq]; rfl) unquoted
  next => rfl

theorem string_eq_none {content : Content} {letters : String}
    (cooked : ¬ (letters ++ "\"").toList <+: text)
    (raw : ∀ rest, text = (letters ++ "r").toList ++ rest →
      (rest.dropWhile (· = '#')).head? ≠ some '"') :
    string content letters text = none := by
  rw [string, startsWith_eq_false _ cooked, if_neg Bool.false_ne_true, andThen, exactly]
  split
  next => rfl
  next taken rest eq =>
    split at eq
    next begins =>
      obtain ⟨rest', rfl⟩ := List.isPrefixOf_iff_prefix.mp begins
      obtain ⟨rfl, rfl⟩ := Prod.mk.inj (Option.some.inj eq)
      rw [List.drop_left, raw_eq_none (raw rest' rfl)]
      rfl
    next => cases eq

/-- The digits of other bases are no decimal digits. -/
theorem le_hexValue (hex : isHexDigit c = true) (digit : c.isDigit = false) : 10 ≤ hexValue c := by
  simp only [isHexDigit, digit, Bool.false_or, Bool.or_eq_true, Bool.and_eq_true,
    decide_eq_true_eq, Char.le_def, UInt32.le_iff_toNat_le] at hex
  simp only [hexValue, digit, Bool.false_eq_true, if_false, Char.le_def, UInt32.le_iff_toNat_le]
  have value : c.toNat = c.val.toNat := rfl
  have a : 'a'.val.toNat = 97 := rfl
  have big : 'A'.val.toNat = 65 := rfl
  split <;> omega

theorem number_eq_none (head : ∀ d ∈ text.head?, d.isDigit = false) :
    float text = none ∧ integer text = none := by
  cases text with
  | nil => exact ⟨by decide, by decide⟩
  | cons c rest =>
      have digit := head c rfl
      have other (second : Char) : ¬ ['0', second] <+: c :: rest := by
        rintro ⟨after, eq⟩
        rw [← (List.cons.inj eq).1] at digit
        cases digit
      have small : (isHexDigit c && decide (hexValue c < 10)) = false := by
        rw [Bool.and_eq_false_imp]
        intro hex
        simpa using le_hexValue hex digit
      constructor
      · simp [float, floatDigits, digit]
      · simp [integer, integerDigits, startsWith_eq_false "0x" (other 'x'),
          startsWith_eq_false "0o" (other 'o'),
          startsWith_eq_false "0b" (other 'b'), digitsIn, digit, small]

theorem isDigit_of_starts (starts : isIdentifierStart c = true) : c.isDigit = false := by
  have digits : ∀ k < 10, isIdentifierStart (Char.ofNat (48 + k)) = false := by decide
  cases digit : c.isDigit with
  | false => rfl
  | true =>
      simp only [Char.isDigit, ge_iff_le, Bool.and_eq_true, decide_eq_true_eq,
        UInt32.le_iff_toNat_le] at digit
      have value : c.toNat = c.val.toNat := rfl
      have zero : '0'.val.toNat = 48 := rfl
      have nine : '9'.val.toNat = 57 := rfl
      have none_ := digits (c.toNat - 48) (by omega)
      rw [Nat.add_sub_cancel' (by omega), Char.ofNat_toNat, starts] at none_
      cases none_

/-- Where no quoted literal opens, a literal is a number. -/
theorem literal_of_unquoted
    (strings : ∀ letters ∈ ["", "b", "c"], ¬ (letters ++ "\"").toList <+: text ∧
      ∀ rest, text = (letters ++ "r").toList ++ rest →
        (rest.dropWhile (· = '#')).head? ≠ some '"')
    (byte : ¬ ['b', '\''] <+: text) (character : ∀ cut, Lexeme.character text ≠ some cut) :
    literal text = (float text).or (integer text) := by
  have plain := strings "" (by simp)
  have bytes := strings "b" (by simp)
  have terminated := strings "c" (by simp)
  have noCharacter : Lexeme.character text = none := Option.eq_none_iff_forall_not_mem.mpr character
  have noByte : Lexeme.byte text = none := andThen_eq_none (exactly_eq_none byte)
  simp only [literal, firstOf, List.findSome?, string_eq_none plain.1 plain.2,
    string_eq_none bytes.1 bytes.2, string_eq_none terminated.1 terminated.2, noByte, noCharacter,
    Option.map_none]
  cases float text <;> cases integer text <;> rfl

/-- No literal is found where none of its openings stands. -/
theorem literal_eq_none
    (strings : ∀ letters ∈ ["", "b", "c"], ¬ (letters ++ "\"").toList <+: text ∧
      ∀ rest, text = (letters ++ "r").toList ++ rest →
        (rest.dropWhile (· = '#')).head? ≠ some '"')
    (byte : ¬ ['b', '\''] <+: text) (character : ∀ cut, Lexeme.character text ≠ some cut)
    (number : ∀ d ∈ text.head?, d.isDigit = false) : literal text = none := by
  obtain ⟨noFloat, noInteger⟩ := number_eq_none number
  rw [literal_of_unquoted strings byte character, noFloat, noInteger]
  rfl

theorem Calm.unquoted (calm : Calm text) : (text.dropWhile (· = '#')).head? ≠ some '"' := by
  cases text with
  | nil => simp
  | cons c rest =>
      have own := calm c rfl
      have other : c ≠ '#' ∧ c ≠ '"' := by constructor <;> rintro rfl <;> exact own (by decide)
      simp [other]

theorem literal_word (isWord : IsWord word) (breaks : Breaks text) :
    literal (word ++ text) = none := by
  obtain ⟨first, tail, eq, starts⟩ := isWord.cases_head
  have head : (word ++ text).head? = some first := by rw [eq]; rfl
  have number : ∀ d ∈ (word ++ text).head?, d.isDigit = false := by
    intro d member
    rw [head] at member
    exact Option.some.inj member ▸ isDigit_of_starts starts
  have character : ∀ cut, Lexeme.character (word ++ text) ≠ some cut := by
    have absent : ¬ ['\''] <+: word ++ text := by
      rintro ⟨after, eq'⟩
      rw [← eq', List.singleton_append, List.head?_cons] at head
      rw [← Option.some.inj head] at starts
      cases starts
    rw [Lexeme.character, andThen_eq_none (exactly_eq_none absent)]
    simp
  cases isWord with
  | @plain c rest starts goesOn =>
      have own : ∀ d ∈ c :: rest, isIdentifierPart d = true := by
        simpa [Text.isIdentifierPart_of_isIdentifierStart starts] using goesOn
      have parts : ∀ letters ∈ ["", "b", "c"],
          (letters ++ "r").toList.all isIdentifierPart = true := by decide
      refine literal_eq_none (fun letters member => ⟨?_, fun rest' eq' => ?_⟩) ?_ character number
      · rw [String.toList_append]
        have own' : letters.toList.all isIdentifierPart = true := by
          have both := parts letters member
          rw [String.toList_append, List.all_append, Bool.and_eq_true] at both
          exact both.1
        exact not_prefix_of_parts _ [] own' (by decide) own breaks
      · obtain ⟨word', eq''⟩ := prefix_of_parts (List.all_eq_true.mp (parts letters member)) breaks
          ⟨rest', eq'.symm⟩
        rw [eq'', List.append_assoc, List.append_cancel_left_eq] at eq'
        rw [← eq']
        exact (calm_append (fun d member => own d (eq'' ▸ List.mem_append_right _ member))
          breaks).unquoted
      · exact not_prefix_of_parts ['b'] [] (by decide) (by decide) own breaks
  | @raw c rest starts goesOn allowed =>
      have other : c ≠ '"' ∧ c ≠ '#' := by constructor <;> rintro rfl <;> cases starts
      refine literal_eq_none (fun letters member => ?_) (by simp) character number
      simp only [List.mem_cons, List.not_mem_nil, or_false] at member
      rcases member with rfl | rfl | rfl
      · refine ⟨by simp, fun rest' eq' => ?_⟩
        obtain rfl : '#' :: c :: (rest ++ text) = rest' := (List.cons.inj eq').2
        simp [other]
      · exact ⟨by simp, by simp⟩
      · exact ⟨by simp, by simp⟩

/-! ### Leaves -/

theorem not_mem_marks (starts : isIdentifierStart c = true) : c ∉ marks := by
  have each : ∀ d ∈ marks, isIdentifierStart d = false := List.all_iff_forall_prop.mp (by decide)
  intro member
  rw [each c member] at starts
  cases starts

theorem mark?_word (isWord : IsWord word) (text : List Char) : mark? (word ++ text) = none := by
  obtain ⟨first, tail, rfl, starts⟩ := isWord.cases_head
  simp [mark?, markChar?, not_mem_marks starts]

/-- No comment begins here. -/
structure NoComment (text : List Char) : Prop where
  line : ¬ ['/', '/'] <+: text
  block : ¬ ['/', '*'] <+: text

theorem noComment_of_head (rest : List Char) (other : c ≠ '/') : NoComment (c :: rest) :=
  ⟨by simp [other.symm], by simp [other.symm]⟩

theorem NoComment.blank (noComment : NoComment (c :: text)) :
    blank (c :: text) = if isSpace c then some ([c], text) else none := by
  have line : startsWith "//" (c :: text) = false := startsWith_eq_false "//" noComment.line
  have block : startsWith "/*" (c :: text) = false := startsWith_eq_false "/*" noComment.block
  have empty : startsWith "/**/" (c :: text) = false :=
    startsWith_eq_false _ fun begins =>
      have shorter : ['/', '*'] <+: "/**/".toList := ⟨['*', '/'], rfl⟩
      noComment.block (shorter.trans begins)
  simp [Lexeme.blank, plainLine, plainBlock, line, block, empty]

theorem NoComment.comment? (noComment : NoComment text) : comment? text = none := by
  have absent (front : String) (rest : List Char) (second : Char)
      (sign : second = '/' ∨ second = '*') (eq : front.toList = '/' :: second :: rest) :
      startsWith front text = false := by
    refine startsWith_eq_false _ fun begins => ?_
    rw [eq] at begins
    have shorter : ['/', second] <+: text := List.IsPrefix.trans ⟨rest, rfl⟩ begins
    rcases sign with rfl | rfl
    · exact noComment.line shorter
    · exact noComment.block shorter
  simp [Lexeme.comment?, absent "//!" ['!'] '/' (.inl rfl) rfl, absent "/*!" ['!'] '*' (.inr rfl) rfl,
    absent "///" ['/'] '/' (.inl rfl) rfl, absent "/**" ['*'] '*' (.inr rfl) rfl]

/-- A punctuation character other than the apostrophe. -/
def IsMark (c : Char) : Prop := c ∈ marks ∧ c ≠ '\''

theorem IsMark.apart (mark : IsMark c) :
    c ∉ "\"'brc".toList ∧ c.isDigit = false ∧ isSpace c = false ∧ c ∉ "([\x7b)]\x7d".toList := by
  have each : ∀ d ∈ marks, d ≠ '\'' → d ∉ "\"'brc".toList ∧ d.isDigit = false ∧
      isSpace d = false ∧ d ∉ "([\x7b)]\x7d".toList := List.all_iff_forall_prop.mp (by decide)
  exact each c mark.1 mark.2

theorem markChar?_eq_some (mark : c ∈ marks) (noComment : NoComment (c :: text)) :
    markChar? (c :: text) = some (c, text) := by
  simp [markChar?, mark, startsWith_eq_false "//" noComment.line,
    startsWith_eq_false "/*" noComment.block]

theorem literal_mark (mark : IsMark c) : literal (c :: text) = none := by
  obtain ⟨other, digit, -, -⟩ := mark.apart
  obtain ⟨quote, apostrophe, b, r, c_⟩ : c ≠ '"' ∧ c ≠ '\'' ∧ c ≠ 'b' ∧ c ≠ 'r' ∧ c ≠ 'c' := by
    simpa using other
  refine literal_eq_none (fun letters member => ?_) (by simp [b.symm]) ?_ (by simpa using digit)
  · simp only [List.mem_cons, List.not_mem_nil, or_false] at member
    rcases member with rfl | rfl | rfl <;>
      exact ⟨by simp [quote.symm, b.symm, c_.symm], by simp [r, b, c_]⟩
  · rw [Lexeme.character, andThen_eq_none (exactly_eq_none (by simp [apostrophe.symm]))]
    simp

/-- A letter between apostrophes is a literal; a lifetime name has none behind it. -/
theorem literal_lifetime (isWord : IsWord word) (breaks : Breaks text) :
    literal ('\'' :: (word ++ text)) = none := by
  have character : Lexeme.character ('\'' :: (word ++ text)) = none := by
    obtain ⟨c, rest, rfl, starts, open_⟩ : ∃ c rest, word = c :: rest ∧
        isIdentifierStart c = true ∧ ¬ ['\''] <+: rest ++ text := by
      cases isWord with
      | @plain c rest starts goesOn =>
          exact ⟨c, rest, rfl, starts,
            not_prefix_of_parts [] [] (by decide) (by decide) goesOn breaks⟩
      | raw => exact ⟨'r', _, rfl, by decide, by simp⟩
    have other : c ≠ '\\' := by rintro rfl; cases starts
    have one : single .text (c :: (rest ++ text)) = some ([c], rest ++ text) := by
      rw [single]
      · rfl
      · simpa using other
    simp [Lexeme.character, andThen, exactly, one, List.isPrefixOf_iff_prefix, open_]
  refine literal_eq_none (fun letters member => ?_) (by simp) (by simp [character]) (by simp)
  simp only [List.mem_cons, List.not_mem_nil, or_false] at member
  rcases member with rfl | rfl | rfl <;> exact ⟨by simp, by simp⟩

theorem mark?_lifetime (isWord : IsWord word) (breaks : Breaks text) :
    mark? ('\'' :: (word ++ text)) = some ('\'', true, word ++ text) := by
  have stops : text.head? ≠ some '\'' ∧ text.head? ≠ some '#' := by
    constructor <;> intro head <;> exact absurd (breaks _ head) (by decide)
  rw [mark?, markChar?_eq_some (by decide) (noComment_of_head _ (by decide))]
  simp [rawOrPlainIdentifier_append isWord breaks, stops]

end

end Lexeme

namespace Token

variable {word text : List Char} {here : Position}

theorem leaf?_word (isWord : IsWord word) (breaks : Breaks text) :
    leaf? here (word ++ text) =
      some (.word ⟨String.ofList word, ⟨here, here.advance word⟩⟩, word, text) := by
  rw [leaf?, Lexeme.literal_word isWord breaks, Lexeme.mark?_word isWord,
    Lexeme.identifier_append isWord breaks]

theorem leaf?_lifetime (isWord : IsWord word) (breaks : Breaks text) :
    leaf? here ('\'' :: (word ++ text)) =
      some (.mark '\'' true ⟨here, here.after '\''⟩, ['\''], word ++ text) := by
  rw [leaf?, Lexeme.literal_lifetime isWord breaks, Lexeme.mark?_lifetime isWord breaks]

theorem leaf?_mark {c : Char} (mark : Lexeme.IsMark c) (noComment : Lexeme.NoComment (c :: text)) :
    leaf? here (c :: text) =
      some (.mark c (Lexeme.markChar? text).isSome ⟨here, here.after c⟩, [c], text) := by
  rw [leaf?, Lexeme.literal_mark mark, Lexeme.mark?,
    Lexeme.markChar?_eq_some mark.1 noComment]
  simp [mark.2]

end Token

end SlotSum
