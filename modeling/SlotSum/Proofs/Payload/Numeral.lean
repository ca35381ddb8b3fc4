import SlotSum.Proofs.Payload.Alike
import SlotSum.Token.Lexeme

/-!
Numbers in types. A number can be written in four bases, with underscores between its digits, with
the name of its type behind it, and as an argument also in a block. Each of these spellings prints in
its own way, so types that differ in the spelling of a number can be told apart though they are one.
-/

namespace SlotSum

/-- What may stand behind the digits of an integer. -/
def integerSuffixes : List String :=
  ["", "u8", "u16", "u32", "u64", "u128", "usize", "i8", "i16", "i32", "i64", "i128", "isize"]

/-- The base that the first characters of a number announce, and its digits. -/
def announced : List Char → Nat × List Char
  | '0' :: 'x' :: digits => (16, digits)
  | '0' :: 'o' :: digits => (8, digits)
  | '0' :: 'b' :: digits => (2, digits)
  | digits => (10, digits)

/-- The number that digits stand for. Underscores among them say nothing. -/
def digitsValue (base : Nat) (digits : List Char) : Nat :=
  (digits.filter (· ≠ '_')).foldl (fun value digit => value * base + Lexeme.hexValue digit) 0

/-- The number that the text of an integer literal denotes. -/
def integerValue (text : String) : Option Nat :=
  match Lexeme.integerDigits text.toList with
  | some (taken, suffix) =>
    if integerSuffixes.contains (String.ofList suffix) then
      some (digitsValue (announced taken).1 (announced taken).2)
    else none
  | none => none

example : ["4", "0x4", "0b1_00", "0o_4u8", "4_usize"].map integerValue =
    List.replicate 5 (some 4) := by decide +kernel

/-- How a number is written: its literal, with or without a sign, by itself or in a block. -/
structure Numeral where
  negative : Bool
  text : String
  block : Bool
  deriving DecidableEq

namespace Numeral

/-- The number that is written. -/
def value? (numeral : Numeral) : Option Int :=
  (integerValue numeral.text).map fun value =>
    if numeral.negative then -(value : Int) else (value : Int)

/-- A sign in a block is an operator; without a block it belongs to the literal. -/
def nodes : Numeral → List Node
  | ⟨negative, text, false⟩ => [.literal [] negative text]
  | ⟨false, text, true⟩ => [.group .brace [.literal [] false text]]
  | ⟨true, text, true⟩ => [.group .brace [.word "-", .literal [] false text]]

/-- Only a literal with no sign and no block counts as one where the length of an array stands. -/
def isLiteral (numeral : Numeral) : Bool := !numeral.negative && !numeral.block

/-! ### Printing -/

/-- The digits of a decimal number begin with one. -/
theorem isDigit_of_digitsIn {c : Char} {rest : List Char} {cut : Lexeme.Cut}
    (read : Lexeme.digitsIn 10 false (c :: rest) = some cut) : c.isDigit = true := by
  refine Decidable.byContradiction fun letter => ?_
  simp only [Bool.not_eq_true] at letter
  have large : (Lexeme.isHexDigit c && decide (Lexeme.hexValue c < 10)) = false := by
    rw [Bool.and_eq_false_iff, decide_eq_false_iff_not]
    refine Decidable.or_iff_not_imp_left.mpr fun hex => ?_
    simp only [Lexeme.isHexDigit, Lexeme.hexValue, letter, Bool.not_eq_false, Bool.false_or,
      Bool.or_eq_true, Bool.and_eq_true, decide_eq_true_eq, Bool.false_eq_true, if_false,
      Char.le_def, UInt32.le_iff_toNat_le] at hex ⊢
    change ¬ (if 97 ≤ c.val.toNat ∧ c.val.toNat ≤ 102 then c.val.toNat - 87
      else c.val.toNat - 55) < 10
    change (97 ≤ c.val.toNat ∧ c.val.toNat ≤ 102) ∨ (65 ≤ c.val.toNat ∧ c.val.toNat ≤ 70) at hex
    split <;> omega
  simp [Lexeme.digitsIn, letter, large] at read

theorem isDigit_of_integerDigits {text : List Char} {cut : Lexeme.Cut}
    (read : Lexeme.integerDigits text = some cut) :
    ∃ c rest, text = c :: rest ∧ c.isDigit = true := by
  have zero {front : Char} (announced : List.isPrefixOf ['0', front] text = true) :
      ∃ c rest, text = c :: rest ∧ c.isDigit = true := by
    obtain ⟨rest, rfl⟩ := List.isPrefixOf_iff_prefix.mp announced
    exact ⟨'0', _, rfl, rfl⟩
  unfold Lexeme.integerDigits Lexeme.startsWith at read
  split at read
  · exact zero ‹_›
  · split at read
    · exact zero ‹_›
    · split at read
      · exact zero ‹_›
      · cases text with
        | nil => cases read
        | cons c rest => exact ⟨c, rest, rfl, isDigit_of_digitsIn read⟩

theorem isDigit_of_value {numeral : Numeral} {number : Int}
    (denotes : numeral.value? = some number) :
    ∃ c rest, numeral.text.toList = c :: rest ∧ c.isDigit = true := by
  rw [value?, Option.map_eq_some_iff] at denotes
  obtain ⟨value, denotes, -⟩ := denotes
  unfold integerValue at denotes
  split at denotes
  · exact isDigit_of_integerDigits ‹_›
  · cases denotes

/-- What is printed before the text of a numeral. -/
def opening (numeral : Numeral) : List Char :=
  (if numeral.block then ['\x7b', ' '] else []) ++ if numeral.negative then ['-', ' '] else []

def closing (numeral : Numeral) : List Char :=
  if numeral.block then [' ', '\x7d'] else []

theorem render_nodes (numeral : Numeral) :
    (Tree.renderAll (Argument.const numeral.nodes).trees).toList =
      numeral.opening ++ (numeral.text.toList ++ numeral.closing) := by
  obtain ⟨negative, text, block⟩ := numeral
  cases negative <;> cases block <;>
    simp [nodes, opening, closing, Argument.trees, Argument.treesEach, Node.treesAll, Node.trees,
      Tree.seq, Tree.renderAll, Tree.render, Tree.gap, Tree.joint, Tree.braces, Tree.enclose]

/-- Numerals print alike only if they are written alike: neither a sign nor a block begins as a
number does. -/
theorem eq_of_render {first second : Numeral} {number number' : Int}
    (denotes : first.value? = some number) (denotes' : second.value? = some number')
    (texts : Tree.renderAll (Argument.const first.nodes).trees =
      Tree.renderAll (Argument.const second.nodes).trees) : first = second := by
  have chars := congrArg String.toList texts
  rw [render_nodes, render_nodes] at chars
  obtain ⟨c, rest, begins, digit⟩ := isDigit_of_value denotes
  obtain ⟨c', rest', begins', digit'⟩ := isDigit_of_value denotes'
  obtain ⟨negative, text, block⟩ := first
  obtain ⟨negative', text', block'⟩ := second
  change text.toList = c :: rest at begins
  change text'.toList = c' :: rest' at begins'
  simp only [opening, closing, begins, begins'] at chars
  -- neither text begins like a sign or a block
  have noSign : c ≠ '-' ∧ '-' ≠ c' := by
    constructor <;> (rintro rfl; contradiction)
  have noBlock : c ≠ '\x7b' ∧ '\x7b' ≠ c' := by
    constructor <;> (rintro rfl; contradiction)
  have same : negative = negative' ∧ block = block' := by
    cases negative <;> cases negative' <;> cases block <;> cases block' <;>
      simp [noSign, noBlock] at chars ⊢
  obtain ⟨rfl, rfl⟩ := same
  rw [List.append_cancel_left_eq, List.append_cancel_right_eq, ← begins, ← begins'] at chars
  rw [String.toList_inj.mp chars]

/-! ### Comparison -/

/-- As arguments, numerals overlap just if they are written alike. -/
theorem argumentOverlaps_iff {params : List String} {first second : Numeral} {number number' : Int}
    (denotes : first.value? = some number) (denotes' : second.value? = some number') :
    Ty.argumentOverlaps params (.const first.nodes) (.const second.nodes) = true ↔
      first = second := by
  rw [Ty.argumentOverlaps, beq_iff_eq]
  · exact ⟨eq_of_render denotes denotes', fun same => by rw [same]⟩
  · nofun
  · nofun

/-- As lengths, numerals that are both literals overlap just if they are written alike. -/
theorem lengths_iff {params : List String} {first second : Numeral} :
    (Matching.byText params).lengths first.nodes second.nodes ↔
      (first.isLiteral = true → second.isLiteral = true → first = second) := by
  obtain ⟨negative, text, block⟩ := first
  obtain ⟨negative', text', block'⟩ := second
  rw [← Ty.lengthsOverlap_iff]
  cases negative <;> cases block <;> cases negative' <;> cases block' <;>
    simp [Ty.lengthsOverlap, nodes, isLiteral]

end Numeral

/-- Two ways to write one number. -/
def SameNumber (parts parts' : List Node) : Prop :=
  ∃ (first second : Numeral) (number : Int), first.value? = some number ∧
    second.value? = some number ∧ parts = first.nodes ∧ parts' = second.nodes

/-- Lengths and constants match if they are spellings of one number, or if they match by their texts.
What is behind a pointer or in a signature always matches. -/
def Matching.byNumber (params : List String) : Matching where
  types _ _ := True
  lengths a b := (byText params).lengths a b ∨ SameNumber a b
  arguments a b := (byText params).arguments a b ∨
    ∃ parts parts', a = .const parts ∧ b = .const parts' ∧ SameNumber parts parts'
  signatures _ _ := True

end SlotSum
