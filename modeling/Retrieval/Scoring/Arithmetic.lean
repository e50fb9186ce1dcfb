import Retrieval.Decimal.Reading

namespace Retrieval.Scoring

/-- The numbers that scores are made of, and what scoring does with them. Scores are computed with
floating-point numbers; the same rules can be read with exact ones. -/
structure Arithmetic (α : Type) where
  zero : α
  one : α
  add : α → α → α
  mul : α → α → α
  /-- The smaller of two numbers. An undefined number does not count. -/
  least : α → α → α
  less : α → α → Bool
  isFinite : α → Bool
  /-- The value of a bell curve at a distance in milliseconds. It is one up to the offset and has
  the given value at one scale beyond it; offset and scale are in seconds. -/
  bell : (scale offset : Nat) → (decay : α) → (distance : Nat) → α

namespace Arithmetic

def floatOf (number : Nat) : Float :=
  number.toUInt64.toFloat

def leastFloat (left right : Float) : Float :=
  if left.isNaN then right
  else if right.isNaN then left
  else if right < left then right
  else left

def bellFloat (scale offset : Nat) (decay : Float) (distance : Nat) : Float :=
  let past := floatOf distance / 1000 - floatOf offset
  let beyond := if past < 0 then 0 else past
  let variance := -(floatOf scale * floatOf scale) / (2 * decay.log)
  (-(beyond * beyond) / (2 * variance)).exp

def floating : Arithmetic Float where
  zero := 0
  one := 1
  add := (· + ·)
  mul := (· * ·)
  least := leastFloat
  less left right := left < right
  isFinite := Float.isFinite
  bell := bellFloat

end Arithmetic

end Retrieval.Scoring
