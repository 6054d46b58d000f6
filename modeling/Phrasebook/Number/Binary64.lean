/-!
# Binary floating point in exact arithmetic

A finite double is a sign, a significand below 2^53 and a power of two. Rounding divides exactly
and breaks ties to the even significand. A double is shown by the fewest decimal digits that read
back as it, the nearest of those.
-/

namespace Phrasebook.Number

/-- The finite double `± significand * 2 ^ (exponent - 1074)`. -/
structure Binary64 where
  negative : Bool
  significand : Nat
  exponent : Nat
  deriving DecidableEq, Repr

namespace Binary64

def zero (negative : Bool) : Binary64 := ⟨negative, 0, 0⟩

def isZero (x : Binary64) : Bool := x.significand == 0

def neg (x : Binary64) : Binary64 := { x with negative := !x.negative }

/-- The nearest integer to a quotient; a half goes to the even neighbour. -/
def divRound (num den : Nat) : Nat :=
  let q := num / den
  let r := num % den
  if 2 * r < den then q
  else if den < 2 * r then q + 1
  else if q % 2 = 0 then q else q + 1

/-- The nearest double to `num / den`; nothing when it is too large for one. -/
def ofRatio (negative : Bool) (num den : Nat) : Option Binary64 :=
  if num = 0 then some (zero negative)
  else
    -- in units of 2^-1074 the quotient is `scaled / den`
    let scaled := num <<< 1074
    let size := (scaled / den).log2
    let shift := size - 52
    let rounded := divRound scaled (den <<< shift)
    let (significand, exponent) :=
      if rounded = Nat.pow 2 53 then (Nat.pow 2 52, shift + 1) else (rounded, shift)
    if exponent ≤ 2045 then some ⟨negative, significand, exponent⟩ else none

def ofNat (n : Nat) : Option Binary64 := ofRatio false n 1

/-- Magnitude in units of 2^-1074. -/
def units (x : Binary64) : Nat := x.significand <<< x.exponent

def mul (x y : Binary64) : Option Binary64 :=
  ofRatio (x.negative != y.negative) (x.units * y.units) (1 <<< 2148)

/-- The nearest double to a quotient by a double that is not zero. -/
def div (x y : Binary64) : Option Binary64 :=
  ofRatio (x.negative != y.negative) x.units y.units

/-- A decimal `digits * 10 ^ scale`. -/
structure Decimal where
  digits : Nat
  scale : Int
  deriving DecidableEq, Repr

/-- The nearest double to a decimal. -/
def ofDecimal (negative : Bool) (d : Decimal) : Option Binary64 :=
  if 0 ≤ d.scale then ofRatio negative (d.digits * Nat.pow 10 d.scale.toNat) 1
  else ofRatio negative d.digits (Nat.pow 10 (-d.scale).toNat)

/-- Whether a decimal reads back as this magnitude. -/
def readsBack (x : Binary64) (d : Decimal) : Bool :=
  ofDecimal false d == some { x with negative := false }

/-- The decimals with a given scale on either side of a magnitude. -/
def neighbours (x : Binary64) (scale : Int) : Decimal × Decimal :=
  let below :=
    if 0 ≤ scale then x.units / ((Nat.pow 10 scale.toNat) <<< 1074)
    else (x.units * Nat.pow 10 (-scale).toNat) >>> 1074
  (⟨below, scale⟩, ⟨below + 1, scale⟩)

/-- Of a magnitude's two neighbours, the lower one is at most half a step away. -/
def lowerIsNearest (x : Binary64) (d : Decimal) : Bool :=
  -- compare 2 x with 2 d + 1 steps
  let steps := 2 * d.digits + 1
  if 0 ≤ d.scale then 2 * x.units ≤ (steps * Nat.pow 10 d.scale.toNat) <<< 1074
  else 2 * x.units * Nat.pow 10 (-d.scale).toNat ≤ steps <<< 1074

/-- The neighbour at one scale that reads back, the nearer one if both do. -/
def shortestAt? (x : Binary64) (scale : Int) : Option Decimal :=
  let (low, high) := neighbours x scale
  match readsBack x low && low.digits != 0, readsBack x high with
  | true, true => some (if lowerIsNearest x low then low else high)
  | true, false => some low
  | false, true => some high
  | false, false => none

/-- Tries scales downwards from `scale`. -/
def shortestFrom (x : Binary64) (scale : Int) : Nat → Decimal
  | 0 => ⟨x.significand, 0⟩
  | tries + 1 => (shortestAt? x scale).getD (shortestFrom x (scale - 1) tries)

/-- The number of decimal digits of a natural number. -/
def decimalLength (n : Nat) : Nat := (Nat.toDigits 10 n).length

/-- The shortest decimal that reads back. A double below 2^1024 has fewer than 310 digits before
the point, and seventeen significant digits always suffice. -/
def shortest (x : Binary64) : Decimal :=
  if x.isZero then ⟨0, 0⟩
  else shortestFrom x (decimalLength (x.units >>> 1074)) 660

/-- Drops zeros from the end of a decimal's digits. -/
def stripZeros : Nat → Decimal → Decimal
  | 0, d => d
  | n + 1, d =>
    if d.digits ≠ 0 ∧ d.digits % 10 = 0 then stripZeros n ⟨d.digits / 10, d.scale + 1⟩ else d

/-- How a decimal is written: positionally while its point falls in the given range of places
from the first digit, else with an exponent. -/
structure Layout where
  leastPoint : Int
  greatestPoint : Int
  deriving DecidableEq, Repr

/-- An exponent always shows its sign. -/
def exponentText (n : Int) : String := if n < 0 then toString n else "+" ++ toString n

/-- A decimal as text; a whole number written positionally keeps one zero after the point. -/
def Decimal.text (layout : Layout) (d : Decimal) : String :=
  if d.digits = 0 then "0.0"
  else
    let digits := Nat.toDigits 10 d.digits
    let count := digits.length
    let point := (count : Int) + d.scale
    if layout.leastPoint < point && point ≤ layout.greatestPoint then
      if 0 ≤ d.scale then
        String.ofList (digits ++ List.replicate d.scale.toNat '0' ++ ['.', '0'])
      else if 0 < point then
        String.ofList (digits.take point.toNat ++ ['.'] ++ digits.drop point.toNat)
      else
        String.ofList (['0', '.'] ++ List.replicate (-point).toNat '0' ++ digits)
    else
      let tail := if count = 1 then [] else '.' :: digits.drop 1
      String.ofList (digits.take 1 ++ tail ++ ['e'] ++ (exponentText (point - 1)).toList)

/-- A double as text. -/
def text (layout : Layout) (x : Binary64) : String :=
  (if x.negative then "-" else "") ++ (stripZeros 400 x.shortest).text layout

end Binary64

end Phrasebook.Number
