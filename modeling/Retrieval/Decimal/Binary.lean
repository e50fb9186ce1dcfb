import Retrieval.Decimal.Word

namespace Retrieval.Decimal

/-- The number `significand * 2 ^ exponent`, negated when `negative` holds. Zero keeps its sign. -/
structure Binary where
  negative : Bool
  significand : Nat
  exponent : Int
  deriving DecidableEq, Repr

def leastNormal : Nat := 0x10000000000000

def leastExponent : Int := -1074

/-- Reads the sign, exponent and fraction of a number. Infinities and undefined numbers have no
finite value. -/
def Binary.ofFloat? (number : Float) : Option Binary :=
  let bits := number.toBits.toNat
  let negative := bits / bound63 == 1
  let field : Nat := bits / leastNormal % 2048
  let fraction : Nat := bits % leastNormal
  if field = 2047 then
    none
  else if field = 0 then
    some ⟨negative, fraction, leastExponent⟩
  else
    some ⟨negative, leastNormal + fraction, (field : Int) - 1075⟩

def digitCount (number : Nat) : Nat :=
  (Nat.toDigits 10 number).length

def leadingExponent (top bottom : Nat) : Int :=
  if bottom ≤ top then
    (digitCount (top / bottom) : Int) - 1
  else
    -(digitCount ((bottom - 1) / top) : Int)

/-- The factors above and below the line in `2 ^ binary / 10 ^ decimal`. -/
def ratio (binary decimal : Int) : Nat × Nat :=
  (Nat.pow 2 binary.toNat * Nat.pow 10 (-decimal).toNat,
    Nat.pow 2 (-binary).toNat * Nat.pow 10 decimal.toNat)

def Binary.leadingExponent (number : Binary) : Int :=
  let factors := ratio number.exponent 0
  Decimal.leadingExponent (number.significand * factors.1) factors.2

/-- The whole number nearest to `top / bottom`; halfway between two it is the even one. -/
def roundedQuotient (top bottom : Nat) : Nat :=
  let whole := top / bottom
  let rest := 2 * (top % bottom)
  if rest < bottom then whole
  else if bottom < rest then whole + 1
  else if whole % 2 = 0 then whole
  else whole + 1

/-- The multiple of `10 ^ place` nearest to the size of a number, counted in units of that place. -/
def Binary.roundedAt (number : Binary) (place : Int) : Nat :=
  let factors := ratio number.exponent place
  roundedQuotient (number.significand * factors.1) factors.2

end Retrieval.Decimal
