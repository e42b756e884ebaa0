import Provisioning.Json.Basic

/-!
Numbers in documents. A numeral without a fraction and an exponent is a whole number if it fits into
64 bits. Any other numeral is a binary number of 53 significant bits, written back with the fewest
digits that read as the same number.
-/

namespace Provisioning.Json

/-- A numeral has a sign, whole digits, and perhaps a fraction and an exponent. -/
structure Numeral where
  negative : Bool
  whole : List Nat
  fraction : Option (List Nat)
  exponent : Option Int

namespace Numeral

/-- Digits add to a significand as long as it stays below a bound; the rest is left over. -/
def absorb (significand : Nat) : List Nat → Nat × List Nat
  | [] => (significand, [])
  | digit :: rest =>
      let next := 10 * significand + digit
      if next < UInt64.size then absorb next rest else (significand, digit :: rest)

/-- Powers of ten up to this one are finite. -/
def largestPower : Nat := 308

/-- A number is multiplied or divided by a power of ten, and an infinite product is none. -/
def scaled (value : Float) (exponent : Int) : Option Float :=
  let power := Float.ofScientific 1 false exponent.natAbs
  if exponent < 0 then some (value / power)
  else if (value * power).isFinite then some (value * power) else none

/-- A number is divided by the largest power until the rest of its exponent is a finite power. -/
def scaledBy : Nat → Float → Int → Option Float
  | 0, _, _ => some 0
  | divisions + 1, value, exponent =>
      if exponent.natAbs ≤ largestPower then scaled value exponent
      else if value == 0 then some 0
      else if 0 ≤ exponent then none
      else
        scaledBy divisions (value / Float.ofScientific 1 false largestPower)
          (exponent + largestPower)

/-- After three divisions by the largest power nothing is left of 64 bits. -/
def maxDivisions : Nat := 3

def float? (negative : Bool) (significand : Nat) (exponent : Int) : Option Float := do
  let magnitude ← scaledBy (maxDivisions + 1) (Float.ofNat significand) exponent
  return if negative then -magnitude else magnitude

/-- A whole number has 64 bits, of which a negative number needs one for its sign. -/
def whole? (negative : Bool) (number : Nat) : Option Int :=
  if !negative then some number
  else if 0 < number ∧ number ≤ Nat.pow 2 63 then some (-number)
  else none

/-- Digits that do not fit into 64 bits count only for the size of the number. -/
def document? (numeral : Numeral) : Option Json :=
  let (significand, left) := absorb 0 numeral.whole
  match numeral.fraction, numeral.exponent, left with
  | none, none, [] =>
      match whole? numeral.negative significand with
      | some number => some (.int number)
      | none => (float? numeral.negative significand 0).map .float
  | fraction, exponent, left => do
      let digits := fraction.getD []
      let (significand, ignored) := absorb significand digits
      let places : Nat := digits.length - ignored.length
      let value ← float? numeral.negative significand (left.length - places + exponent.getD 0)
      return .float value

end Numeral

/-- A decimal number is a number of digits and the power of ten of the last one. -/
structure Decimal where
  digits : Nat
  exponent : Int

namespace Decimal

def toFloat (decimal : Decimal) : Float :=
  Float.ofScientific decimal.digits (decimal.exponent < 0) decimal.exponent.natAbs

/-- This function rounds a quotient to the nearest whole number. -/
def rounded (numerator denominator : Nat) : Nat :=
  (2 * numerator + denominator) / (2 * denominator)

/-- A finite magnitude is a quotient of whole numbers. -/
def quotientOf (magnitude : Float) : Nat × Nat :=
  let bits := magnitude.toBits.toNat
  let scale := bits / Nat.pow 2 52
  let fraction := bits % Nat.pow 2 52
  let significand := if scale = 0 then fraction else Nat.pow 2 52 + fraction
  let shift : Int := (max scale 1 : Nat) - 1075
  let power := Nat.pow 2 shift.natAbs
  if shift < 0 then (significand, power) else (significand * power, 1)

/-- A number below ten to this power has about this many digits before its point. -/
def magnitudeOf (numerator denominator : Nat) : Int :=
  if denominator ≤ numerator then (toString (numerator / denominator)).length
  else 1 - (toString (denominator / numerator)).length

/-- This is the decimal number with a given last place that is nearest to a quotient. -/
def nearest (numerator denominator : Nat) (exponent : Int) : Decimal :=
  let power := Nat.pow 10 exponent.natAbs
  let digits :=
    if exponent < 0 then rounded (numerator * power) denominator
    else rounded numerator (denominator * power)
  ⟨digits, exponent⟩

/-- Seventeen digits are always enough, and the number of digits before the point may be one off. -/
def maxDigits : Nat := 18

/-- The fewest digits that read as the same positive number are chosen. -/
def shortest (magnitude : Float) : Decimal :=
  let (numerator, denominator) := quotientOf magnitude
  let top := magnitudeOf numerator denominator
  let candidate (count : Nat) := nearest numerator denominator (top - count)
  ((List.range maxDigits).find? fun count => (candidate count).toFloat == magnitude).elim
    (candidate maxDigits) candidate

/-- A point follows the first digit, unless that is the only one. -/
def pointed : List Char → List Char
  | first :: second :: rest => first :: '.' :: second :: rest
  | digits => digits

/-- Numbers of moderate size are written without an exponent. -/
def text (decimal : Decimal) : String :=
  let digits := toString decimal.digits
  let point : Int := digits.length + decimal.exponent
  if 0 ≤ decimal.exponent ∧ point ≤ 16 then
    digits ++ String.ofList (List.replicate decimal.exponent.toNat '0') ++ ".0"
  else if 0 < point ∧ point ≤ 16 then
    let (before, after) := digits.toList.splitAt point.toNat
    String.ofList (before ++ '.' :: after)
  else if -5 < point ∧ point ≤ 0 then
    "0." ++ String.ofList (List.replicate point.natAbs '0') ++ digits
  else s!"{String.ofList (pointed digits.toList)}e{point - 1}"

end Decimal

/-- Zero keeps its sign. -/
def floatText (value : Float) : String :=
  let sign := if value.toBits.toNat < Nat.pow 2 63 then "" else "-"
  let magnitude := value.abs
  sign ++ (if magnitude == 0 then "0.0" else (Decimal.shortest magnitude).text)

end Provisioning.Json
