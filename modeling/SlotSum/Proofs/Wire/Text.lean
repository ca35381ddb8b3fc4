import SlotSum.Wire.Scan

/-!
Strings on the wire: every text is read back from its quoted form, whatever follows the closing
quote.
-/

namespace SlotSum

def Json.escapes (text : List Char) : List Char := text.flatMap fun c => (Json.escape c).toList

theorem Json.toList_quote (text : String) :
    (Json.quote text).toList = '\"' :: (Json.escapes text.toList ++ ['\"']) := by
  simp [Json.quote, Json.escapes, String.toList_join, List.flatMap_map]

namespace Scan

/-- Characters whose escape is a letter behind a backslash. -/
def shortEscapes : List Char := ['\x08', '\x0c', '\n', '\r', '\t']

/-- The piece that stands for a character in an escaped text: control characters without a short
escape are written by their numbers. -/
def pieceOf (c : Char) : Piece :=
  if c.toNat < 0x20 ∧ c ∉ shortEscapes then .unit c.toNat else .char c

theorem hexDigit_digitChar : ∀ digit < 16, hexDigit? (Nat.digitChar digit) = some digit := by
  decide

/-- The number of a control character has two digits that may differ from zero. -/
theorem hexUnit_control (number : Nat) (control : number < 0x20) :
    hexUnit? ['0', '0', if number < 0x10 then '0' else '1', Nat.digitChar (number % 0x10)] =
      some number := by
  have last := hexDigit_digitChar (number % 0x10) (by omega)
  have zero : hexDigit? '0' = some 0 := by decide
  have one : hexDigit? '1' = some 1 := by decide
  by_cases low : number < 0x10
  · simp only [hexUnit?, low, if_true, zero, last, Option.bind_eq_bind, Option.bind_some,
      Option.pure_def, Option.some.injEq]
    omega
  · simp only [hexUnit?, low, if_false, zero, one, last, Option.bind_eq_bind, Option.bind_some,
      Option.pure_def, Option.some.injEq]
    omega

variable {rest after : List Char} {following : List Piece}

theorem pieces_escape (c : Char) (found : pieces rest = some (following, after)) :
    pieces ((Json.escape c).toList ++ rest) = some (pieceOf c :: following, after) := by
  unfold Json.escape
  split
  iterate 7 · simp [pieces, escaped?, pieceOf, shortEscapes, found]
  rename_i notQuote notBackslash notB notF notN notR notT
  have notShort : c ∉ shortEscapes := by
    simp only [shortEscapes, List.mem_cons, List.not_mem_nil, or_false, not_or]
    exact ⟨notB, notF, notN, notR, notT⟩
  have other : c ≠ '\\' := notBackslash
  split
  · rename_i control
    have unit := hexUnit_control c.toNat control
    have digit : (if c.toNat < 0x10 then "0" else "1").toList =
        [if c.toNat < 0x10 then '0' else '1'] := by
      split <;> rfl
    simp [pieces, digit, unit, pieceOf, control, notShort, found]
  · rename_i printable
    rw [String.toList_singleton, List.singleton_append, pieces.eq_5 c rest notQuote
      (fun _ _ _ _ _ same => absurd same notBackslash) (fun _ _ same => absurd same notBackslash)]
    simp [printable, other, pieceOf, found]

theorem pieces_escapes (text : List Char) :
    pieces (Json.escapes text ++ '\"' :: rest) = some (text.map pieceOf, rest) := by
  induction text with
  | nil => simp [Json.escapes, pieces]
  | cons c text ih =>
      have escaped := pieces_escape c ih
      simpa [Json.escapes] using escaped

/-- The number of a control character is no half of a pair. -/
theorem assemble_unit (number : Nat) (control : number < 0x20) (pieces : List Piece) :
    assemble (.unit number :: pieces) = (assemble pieces).map (Char.ofNat number :: ·) := by
  have notLeading : isLeading number = false := by simp [isLeading]; omega
  have notTrailing : isTrailing number = false := by simp [isTrailing]; omega
  cases pieces with
  | nil => simp [assemble, notLeading, notTrailing]
  | cons next rest =>
      cases next with
      | char c => simp [assemble, notLeading, notTrailing]
      | unit trailing =>
          rw [assemble, if_neg (by simp [notLeading]), if_neg (by simp [notTrailing])]

theorem assemble_pieceOf (text : List Char) : assemble (text.map pieceOf) = some text := by
  induction text with
  | nil => rfl
  | cons c text ih =>
      rw [List.map_cons, pieceOf]
      split
      · rename_i control
        rw [assemble_unit _ control.1, ih, Option.map_some, Char.ofNat_toNat]
      · simp [assemble, ih]

/-- A text is read back from its quoted form, whatever stands behind it. -/
theorem string_quote (text : String) (rest : List Char) :
    string (Json.escapes text.toList ++ '\"' :: rest) = some (some text, rest) := by
  simp [string, pieces_escapes, assemble_pieceOf]

end Scan

end SlotSum
