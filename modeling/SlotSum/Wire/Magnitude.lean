/-!
Finite binary fractions of double precision without their sign. All steps are exact integer
arithmetic with one rounding at the end, to the nearest value and among two nearest to the even one.
-/

namespace SlotSum

/-- A mantissa times a power of two. The mantissa has 53 bits unless the exponent is the least. -/
structure Magnitude where
  mantissa : Nat
  exponent : Int
  deriving DecidableEq, Repr, Inhabited

namespace Magnitude

def leastExponent : Int := -1074

def greatestExponent : Int := 971

def zero : Magnitude := ⟨0, leastExponent⟩

def isZero (value : Magnitude) : Bool := value.mantissa = 0

/-- A ratio times a power of a base. -/
def scaled (base numerator denominator : Nat) (exponent : Int) : Nat × Nat :=
  if 0 ≤ exponent then (numerator * base.pow exponent.toNat, denominator)
  else (numerator, denominator * base.pow (-exponent).toNat)

/-- The nearest integer to a ratio, the even one of two. -/
def nearest (numerator denominator : Nat) : Nat :=
  let quotient := numerator / denominator
  let twice := 2 * (numerator % denominator)
  if twice < denominator then quotient
  else if denominator < twice then quotient + 1
  else if quotient % 2 = 0 then quotient else quotient + 1

/-- The exponent at which the mantissa of a ratio has 53 bits, but not below the least one. -/
def exponentOf (numerator denominator : Nat) : Int :=
  let guess : Int := (numerator.log2 : Int) - (denominator.log2 : Int) - 53
  let (above, below) := scaled 2 numerator denominator (-guess)
  max leastExponent (if 1 <<< 53 ≤ above / below then guess + 1 else guess)

/-- The value nearest to a ratio; none if it is too large. -/
def ofRatio (numerator denominator : Nat) : Option Magnitude :=
  if numerator = 0 then some zero
  else
    let exponent := exponentOf numerator denominator
    let (above, below) := scaled 2 numerator denominator (-exponent)
    let mantissa := nearest above below
    let rounded : Magnitude :=
      if mantissa = 1 <<< 53 then ⟨1 <<< 52, exponent + 1⟩ else ⟨mantissa, exponent⟩
    if rounded.exponent ≤ greatestExponent then some rounded else none

def ratio (value : Magnitude) : Nat × Nat := scaled 2 value.mantissa 1 value.exponent

/-! ### Bits -/

/-- The bits of a value: below the exponent's, only those of the mantissa that are not implied. -/
def bits (value : Magnitude) : Nat :=
  if value.mantissa < 1 <<< 52 then value.mantissa
  else (value.exponent + 1075).toNat * 1 <<< 52 + (value.mantissa - 1 <<< 52)

/-- The value with given bits; none if they stand for no finite one. -/
def ofBits (bits : Nat) : Option Magnitude :=
  let exponent : Nat := bits / 1 <<< 52
  let fraction : Nat := bits % 1 <<< 52
  if exponent = 0 then some ⟨fraction, leastExponent⟩
  else if exponent < 0x7ff then some ⟨1 <<< 52 + fraction, (exponent : Int) - 1075⟩
  else none

/-! ### Decimal numbers -/

/-- The greatest power of ten that is a value. -/
def greatestPower : Nat := 308

/-- A power of ten, rounded. -/
def powerOfTen (exponent : Nat) : Magnitude := (ofRatio (Nat.pow 10 exponent) 1).getD zero

/-- The product of two values, rounded; none if it is too large. -/
def product (first second : Magnitude) : Option Magnitude :=
  let (above, below) := first.ratio
  let (above', below') := second.ratio
  ofRatio (above * above') (below * below')

/-- The quotient of two values, rounded. -/
def quotient (first second : Magnitude) : Magnitude :=
  let (above, below) := first.ratio
  let (above', below') := second.ratio
  (ofRatio (above * below') (below * above')).getD zero

/-- Divides by a power of ten, in steps of the greatest one; a value that has become zero stays. -/
def shrink (value : Magnitude) : Nat → Nat → Magnitude
  | 0, _ => zero
  | steps + 1, exponent =>
    if exponent ≤ greatestPower then value.quotient (powerOfTen exponent)
    else if value.isZero then value
    else shrink (value.quotient (powerOfTen greatestPower)) steps (exponent - greatestPower)

/-- An integer times a power of ten: the integer, the power and their product or quotient are each
rounded. None if the result is too large. -/
def ofDecimal (significand : Nat) (exponent : Int) : Option Magnitude :=
  (ofRatio significand 1).bind fun value =>
    if 0 ≤ exponent then
      if exponent ≤ greatestPower then value.product (powerOfTen exponent.toNat)
      else if value.isZero then some value else none
    else some (value.shrink 4 (-exponent).toNat)

/-! ### Shortest text -/

/-- Whether a decimal number rounds to a value: it lies between the midpoints to its neighbours, or
on one of them if the mantissa is even. -/
def isRoundedFrom (value : Magnitude) (digits : Nat) (exponent : Int) : Bool :=
  let (above, below) := scaled 10 digits 1 exponent
  let lower :=
    if value.mantissa = 1 <<< 52 && leastExponent < value.exponent then 4 * value.mantissa - 1
    else 4 * value.mantissa - 2
  let (low, lowBelow) := scaled 2 lower 4 value.exponent
  let (high, highBelow) := scaled 2 (4 * value.mantissa + 2) 4 value.exponent
  if value.mantissa % 2 = 0 then
    low * below ≤ above * lowBelow && above * highBelow ≤ high * below
  else
    low * below < above * lowBelow && above * highBelow < high * below

/-- The better one of the two decimal numbers around a value that end at an exponent, if it rounds
to the value. -/
def candidate? (value : Magnitude) (exponent : Int) : Option Nat :=
  let (above, below) := value.ratio
  let (above, below) := scaled 10 above below (-exponent)
  let under := above / below
  let upFirst := below ≤ 2 * (above % below)
  let ordered := if upFirst then [under + 1, under] else [under, under + 1]
  ordered.find? fun digits => value.isRoundedFrom digits exponent

/-- Searches from an exponent downwards. -/
def searchDigits (value : Magnitude) : Nat → Int → Nat × Int
  | 0, exponent => (0, exponent)
  | steps + 1, exponent =>
    match value.candidate? exponent with
    | some digits => (digits, exponent)
    | none => searchDigits value steps (exponent - 1)

/-- The decimal number with the fewest digits that rounds to a value. -/
def shortest (value : Magnitude) : Nat × Int := value.searchDigits 660 310

/-- Digits with a point after some of them. -/
def withPoint (digits : List Char) (before : Nat) : String :=
  String.ofList (digits.take before) ++ "." ++ String.ofList (digits.drop before)

/-- The text of a decimal number: written out if its point is near, else with an exponent. -/
def decimalText (digits : List Char) (exponent : Int) : String :=
  let point : Int := digits.length + exponent
  if 0 ≤ exponent ∧ point ≤ 16 then
    String.ofList digits ++ String.ofList (List.replicate exponent.toNat '0') ++ ".0"
  else if 0 < point ∧ point ≤ 16 then withPoint digits point.toNat
  else if -5 < point ∧ point ≤ 0 then
    "0." ++ String.ofList (List.replicate (-point).toNat '0') ++ String.ofList digits
  else
    let mantissa := if digits.length = 1 then String.ofList digits else withPoint digits 1
    mantissa ++ "e" ++ toString (point - 1)

def text (value : Magnitude) : String :=
  if value.isZero then "0.0"
  else
    let (digits, exponent) := value.shortest
    decimalText (Nat.toDigits 10 digits) exponent

end Magnitude

end SlotSum
