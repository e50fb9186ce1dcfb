import Retrieval.Decimal.Binary

/-!
The fewest decimal digits that read back as the same floating-point number, and among those the
nearest to it.
-/

namespace Retrieval.Decimal

structure Numeral where
  negative : Bool
  digits : Nat
  exponent : Int
  deriving DecidableEq, Repr

/-- The ends of the interval of reals that round to a number, in quarters of its last binary
place. The neighbour below a power of two is only half as far away. -/
def Binary.interval (number : Binary) : Nat × Nat :=
  let below :=
    if number.significand = leastNormal ∧ leastExponent < number.exponent then 1 else 2
  (4 * number.significand - below, 4 * number.significand + 2)

/-- The multiple of `10 ^ place`, in units of that place, that reads back as the number, if there
is one. Only the two neighbours of the number need to be tried. The ends of the interval round to
the number exactly when its significand is even. -/
def Binary.onGrid? (number : Binary) (place : Int) : Option Nat :=
  let factors := ratio (number.exponent - 2) place
  let (low, high) := number.interval
  let exact := 4 * number.significand * factors.1
  let readsBack (candidate : Nat) : Bool :=
    let scaled := candidate * factors.2
    if number.significand % 2 = 0 then
      low * factors.1 ≤ scaled && scaled ≤ high * factors.1
    else
      low * factors.1 < scaled && scaled < high * factors.1
  let down := exact / factors.2
  let up := down + 1
  match readsBack down, readsBack up with
  | true, true => some (roundedQuotient exact factors.2)
  | true, false => some down
  | false, true => some up
  | false, false => none

def Numeral.withoutZeros (fuel : Nat) (numeral : Numeral) : Numeral :=
  match fuel with
  | 0 => numeral
  | fuel + 1 =>
      if numeral.digits ≠ 0 ∧ numeral.digits % 10 = 0 then
        Numeral.withoutZeros fuel
          { numeral with digits := numeral.digits / 10, exponent := numeral.exponent + 1 }
      else
        numeral

/-- Tries grids with more and more digits. Seventeen digits tell all numbers apart, so the last
attempt needs no test. -/
def Binary.shortestFrom (number : Binary) (leading : Int) : List Nat → Numeral
  | [] => ⟨number.negative, number.roundedAt (leading - 16), leading - 16⟩
  | count :: counts =>
      let place := leading - count + 1
      match number.onGrid? place with
      | some digits => ⟨number.negative, digits, place⟩
      | none => number.shortestFrom leading counts

def Binary.shortest (number : Binary) : Numeral :=
  if number.significand = 0 then
    ⟨number.negative, 0, 0⟩
  else
    (number.shortestFrom number.leadingExponent ((List.range 17).map (· + 1))).withoutZeros 18

end Retrieval.Decimal
