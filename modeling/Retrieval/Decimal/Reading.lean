import Retrieval.Decimal.Binary

namespace Retrieval.Decimal

def infinity : Float := Float.ofBits 0x7FF0000000000000

def undefinedNumber : Float := Float.ofBits 0x7FF8000000000000

/-- The number nearest to `digits * 10 ^ exponent`. Far outside the range of finite numbers the
answer is known without computing the power. -/
def nearest (digits : Nat) (exponent : Int) : Float :=
  if digits = 0 then
    0
  else if 310 < digitCount digits + exponent then
    infinity
  else if digitCount digits + exponent < -330 then
    0
  else
    Float.ofScientific digits (exponent < 0) exponent.natAbs

def withSign (negative : Bool) (number : Float) : Float :=
  if negative then -number else number

def digitValue (char : Char) : Nat :=
  char.toNat - '0'.toNat

def naturalOf (digits : List Char) : Nat :=
  digits.foldl (fun sum digit => sum * 10 + digitValue digit) 0

/-- The leading digits of a numeral as a whole number below 2^64, and the power of ten it stands
for. -/
structure Leading where
  significand : Nat
  exponent : Int
  deriving DecidableEq, Repr

def Leading.whole (leading : Leading) : List Char → Leading
  | [] => leading
  | digit :: rest =>
      let next := leading.significand * 10 + digitValue digit
      if next < bound64 then
        Leading.whole ⟨next, leading.exponent⟩ rest
      else
        ⟨leading.significand, leading.exponent + rest.length + 1⟩

/-- Takes in digits after the point as long as they fit. The others do not count. -/
def Leading.fraction (leading : Leading) : List Char → Leading
  | [] => leading
  | digit :: rest =>
      let next := leading.significand * 10 + digitValue digit
      if next < bound64 then
        Leading.fraction ⟨next, leading.exponent - 1⟩ rest
      else
        leading

/-- Scales a number by a power of ten with one multiplication or division, after as many divisions
by 10^308 as bring the exponent into reach. There is no answer beyond the largest finite number. -/
def scaled (number : Float) (exponent : Int) : Option Float :=
  if exponent.natAbs ≤ 308 then
    let power := nearest 1 exponent.natAbs
    if exponent < 0 then
      some (number / power)
    else if (number * power).isInf then
      none
    else
      some (number * power)
  else if number == 0 then
    some number
  else if 0 ≤ exponent then
    none
  else
    scaled (number / 1e308) (exponent + 308)
termination_by exponent.natAbs
decreasing_by omega

/-- Numbers in data texts are read from their leading digits only, so beyond fifteen digits the
last place may be off by one. -/
def Leading.toFloat? (leading : Leading) (negative : Bool) : Option Float :=
  (scaled leading.significand.toUInt64.toFloat leading.exponent).map (withSign negative)

end Retrieval.Decimal
