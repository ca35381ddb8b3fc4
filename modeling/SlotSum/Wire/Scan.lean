import SlotSum.Wire.Json

/-!
Scanning JSON text. The scan goes on as long as the text could be skipped, and marks the place
where it could not.
-/

namespace SlotSum.Scan

def isSpace (c : Char) : Bool := c = ' ' || c = '\n' || c = '\t' || c = '\r'

def skipSpace (text : List Char) : List Char := text.dropWhile isSpace

/-! ### Strings -/

/-- A piece of a string: a character, or a 16-bit unit written by its number. -/
inductive Piece where
  | char (c : Char)
  | unit (number : Nat)
  deriving Repr

def hexDigit? (c : Char) : Option Nat :=
  if '0' ≤ c && c ≤ '9' then some (c.toNat - '0'.toNat)
  else if 'a' ≤ c && c ≤ 'f' then some (c.toNat - 'a'.toNat + 10)
  else if 'A' ≤ c && c ≤ 'F' then some (c.toNat - 'A'.toNat + 10)
  else none

def hexUnit? : List Char → Option Nat
  | [a, b, c, d] => do
    return 0x1000 * (← hexDigit? a) + 0x100 * (← hexDigit? b) + 0x10 * (← hexDigit? c)
      + (← hexDigit? d)
  | _ => none

/-- What a backslash in front of a character stands for. -/
def escaped? (c : Char) : Option Char :=
  match c with
  | '\"' => some '\"'
  | '\\' => some '\\'
  | '/' => some '/'
  | 'b' => some '\x08'
  | 'f' => some '\x0c'
  | 'n' => some '\n'
  | 'r' => some '\r'
  | 't' => some '\t'
  | _ => none

/-- The pieces of a string up to its closing quote, and what follows it. -/
def pieces : List Char → Option (List Piece × List Char)
  | [] => none
  | '\"' :: rest => some ([], rest)
  | '\\' :: 'u' :: a :: b :: c :: d :: rest => do
    let number ← hexUnit? [a, b, c, d]
    let (following, rest) ← pieces rest
    return (.unit number :: following, rest)
  | '\\' :: c :: rest => do
    let char ← escaped? c
    let (following, rest) ← pieces rest
    return (.char char :: following, rest)
  | c :: rest =>
    if c.toNat < 0x20 || c = '\\' then none
    else do
      let (following, rest) ← pieces rest
      return (.char c :: following, rest)

def isLeading (number : Nat) : Bool := 0xd800 ≤ number && number < 0xdc00

def isTrailing (number : Nat) : Bool := 0xdc00 ≤ number && number < 0xe000

/-- The character that a pair of units encodes. -/
def pairChar (leading trailing : Nat) : Char :=
  Char.ofNat (0x10000 + 0x400 * (leading - 0xd800) + (trailing - 0xdc00))

/-- The characters that pieces encode: a leading unit needs a trailing one right behind it. -/
def assemble : List Piece → Option (List Char)
  | [] => some []
  | .char c :: rest => (assemble rest).map (c :: ·)
  | .unit leading :: .unit trailing :: rest =>
    if isLeading leading then
      if isTrailing trailing then (assemble rest).map (pairChar leading trailing :: ·) else none
    else if isTrailing leading then none
    else (assemble (.unit trailing :: rest)).map (Char.ofNat leading :: ·)
  | .unit number :: rest =>
    if isLeading number || isTrailing number then none
    else (assemble rest).map (Char.ofNat number :: ·)

/-- A string behind its opening quote. -/
def string (text : List Char) : Option (Option String × List Char) :=
  (pieces text).map fun (found, rest) => ((assemble found).map String.ofList, rest)

/-! ### Numbers -/

def takeDigits (text : List Char) : List Char × List Char := text.span Char.isDigit

def digitValue (c : Char) : Nat := c.toNat - '0'.toNat

def greatestSignificand : Nat := 1 <<< 64 - 1

/-- Appends digits to a significand until one does not fit; also how many were appended. -/
def absorb (significand : Nat) : List Char → Nat × Nat
  | [] => (significand, 0)
  | digit :: rest =>
    let longer := 10 * significand + digitValue digit
    if longer ≤ greatestSignificand then
      let (final, count) := absorb longer rest
      (final, count + 1)
    else (significand, 0)

/-- The digits of a number and its exponent, if it has a point or an exponent. -/
structure Numeral where
  negative : Bool
  whole : List Char
  fraction : Option (List Char)
  exponent : Option Int

namespace Numeral

def fractionOf (numeral : Numeral) (significand : Nat) (exponent : Int) : Number :=
  match Magnitude.ofDecimal significand exponent with
  | some magnitude => .fraction numeral.negative magnitude
  | none => .tooLarge

/-- An integer that fits is one; a minus zero and all others are binary fractions. -/
def number (numeral : Numeral) : Number :=
  let (whole, count) := absorb 0 numeral.whole
  let left : Int := (numeral.whole.length : Int) - count
  match numeral.fraction, numeral.exponent with
  | none, none =>
    if left ≠ 0 then numeral.fractionOf whole left
    else if !numeral.negative then .integer whole
    else if 0 < whole && whole ≤ 1 <<< 63 then .integer (-(whole : Int))
    else numeral.fractionOf whole 0
  | fraction, exponent =>
    let (significand, places) := absorb whole (fraction.getD [])
    numeral.fractionOf significand (left - places + exponent.getD 0)

end Numeral

/-- The digits behind a point, of which there is at least one; none if there is no point. -/
def fraction : List Char → Option (Option (List Char) × List Char)
  | '.' :: rest =>
    match takeDigits rest with
    | ([], _) => none
    | (digits, rest) => some (some digits, rest)
  | rest => some (none, rest)

def sign : List Char → Bool × List Char
  | '+' :: rest => (false, rest)
  | '-' :: rest => (true, rest)
  | rest => (false, rest)

def digitsValue (digits : List Char) : Nat :=
  digits.foldl (fun value digit => 10 * value + digitValue digit) 0

/-- An exponent, which has at least one digit; none if there is no mark of one. -/
def exponent : List Char → Option (Option Int × List Char)
  | mark :: rest =>
    if mark = 'e' || mark = 'E' then
      let (negative, rest) := sign rest
      match takeDigits rest with
      | ([], _) => none
      | (digits, rest) =>
        let value : Int := digitsValue digits
        some (some (if negative then -value else value), rest)
    else some (none, mark :: rest)
  | [] => some (none, [])

/-- A number behind its sign: a leading zero stands alone. -/
def numeral (negative : Bool) (text : List Char) : Option (Number × List Char) :=
  match takeDigits text with
  | ([], _) => none
  | ('0' :: _ :: _, _) => none
  | (whole, rest) => do
    let (places, rest) ← fraction rest
    let (power, rest) ← exponent rest
    return (Numeral.number ⟨negative, whole, places, power⟩, rest)

/-! ### Values -/

/-- A value that was scanned, or a fault. -/
def orBroken (wrap : α → Json) : Option (α × List Char) → Json × List Char
  | some (found, rest) => (wrap found, rest)
  | none => (.broken, [])

/-- A word that stands for a value. -/
def word (expected : String) (meaning : Json) (text : List Char) : Json × List Char :=
  if expected.toList.isPrefixOf text then (meaning, text.drop expected.length) else (.broken, [])

mutual

/-- A value, and what follows it. -/
def value : Nat → List Char → Json × List Char
  | 0, _ => (.broken, [])
  | depth + 1, text =>
    match skipSpace text with
    | [] => (.broken, [])
    | '[' :: rest =>
      let (found, closed, rest) := items depth true rest
      (.array found closed, rest)
    | '\x7b' :: rest =>
      let (found, closed, rest) := entries depth true rest
      (.object found closed, rest)
    | '\"' :: rest => orBroken .text (string rest)
    | '-' :: rest => orBroken .number (numeral true rest)
    | c :: rest =>
      if c.isDigit then orBroken .number (numeral false (c :: rest))
      else if c = 'n' then word "null" .null (c :: rest)
      else if c = 't' then word "true" (.boolean true) (c :: rest)
      else if c = 'f' then word "false" (.boolean false) (c :: rest)
      else (.broken, [])

/-- Elements to the closing bracket; `first` tells that none stands before them. -/
def items : Nat → Bool → List Char → List Json × Bool × List Char
  | 0, _, _ => ([], false, [])
  | depth + 1, first, text =>
    let item (rest : List Char) : List Json × Bool × List Char :=
      let (found, rest) := value depth rest
      let (others, closed, rest) := items depth false rest
      (found :: others, closed, rest)
    match skipSpace text with
    | ']' :: rest => ([], true, rest)
    | ',' :: rest =>
      if first then ([], false, [])
      else
        match skipSpace rest with
        | ']' :: _ => ([], false, [])
        | rest => item rest
    | rest => if first then item rest else ([], false, [])

/-- Entries to the closing brace. -/
def entries : Nat → Bool → List Char → List Entry × Bool × List Char
  | 0, _, _ => ([], false, [])
  | depth + 1, first, text =>
    let entry (rest : List Char) : List Entry × Bool × List Char :=
      match rest with
      | '\"' :: rest =>
        match string rest with
        | none => ([], false, [])
        | some (key, rest) =>
          match skipSpace rest with
          | ':' :: rest =>
            let (found, rest) := value depth rest
            let (others, closed, rest) := entries depth false rest
            (.mk key found :: others, closed, rest)
          | _ => ([.mk key .broken], false, [])
      | _ => ([], false, [])
    match skipSpace text with
    | '\x7d' :: rest => ([], true, rest)
    | ',' :: rest => if first then ([], false, []) else entry (skipSpace rest)
    | rest => if first then entry rest else ([], false, [])

end

end SlotSum.Scan

namespace SlotSum

/-- A text with one value. -/
structure Document where
  value : Json
  /-- Nothing but space follows the value. -/
  ended : Bool
  deriving Inhabited

namespace Document

/-- Scans a whole text; every bracket and every element takes at least one character. -/
def scan (text : String) : Document :=
  let (found, rest) := Scan.value (2 * text.length + 2) text.toList
  ⟨found, (Scan.skipSpace rest).isEmpty⟩

end Document

end SlotSum
