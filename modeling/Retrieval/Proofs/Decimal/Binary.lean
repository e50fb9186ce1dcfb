import Mathlib
import Retrieval.Decimal.Binary

/-!
What a finite floating-point number is worth. A number is read in two ways, by its bits and by
the unpacked form that the comparisons go by; both give the same binary fraction. Its value lives
in any ordered field, and there finite numbers compare as their values do.
-/

namespace Retrieval.Decimal

open Float.Model Float.Model.UnpackedFloat

section Unpacking

variable (bits : BitVec Format.binary64.numBits)

theorem toNat_unpackMantissa : (unpackMantissa bits).toNat = bits.toNat % leastNormal := by
  simp [unpackMantissa, BitVec.extractLsb, leastNormal]

theorem toNat_unpackExponent :
    (unpackExponent bits).toNat = bits.toNat / leastNormal % 2048 := by
  simp [unpackExponent, BitVec.extractLsb, leastNormal, Nat.shiftRight_eq_div_pow]

theorem toNat_unpackSign : (unpackSign bits).toNat = bits.toNat / bound63 := by
  have within : bits.toNat < 2 ^ 64 := bits.isLt
  simp [unpackSign, BitVec.extractLsb, bound63, Nat.shiftRight_eq_div_pow]
  omega

theorem ofBitVec_unpackSign :
    (Sign.ofBitVec (unpackSign bits) == .negative) = (bits.toNat / bound63 == 1) := by
  rw [← toNat_unpackSign]
  generalize unpackSign bits = sign
  revert sign
  decide

/-- A normal number has a digit that its bits leave out. -/
theorem toNat_leading_unpackMantissa :
    (1#1 ++ unpackMantissa bits).toNat = leastNormal + bits.toNat % leastNormal := by
  have within : (unpackMantissa bits).toNat < 2 ^ 52 := (unpackMantissa bits).isLt
  rw [← toNat_unpackMantissa, BitVec.toNat_append]
  change 2 ^ 52 ||| (unpackMantissa bits).toNat = _
  rw [Nat.or_comm, Nat.or_two_pow_eq_add_of_lt within, Nat.add_comm]
  rfl

def Binary.ofUnpacked? : UnpackedFloat → Option Binary
  | .zero sign => some ⟨sign == .negative, 0, leastExponent⟩
  | .finite sign mantissa exponent _ => some ⟨sign == .negative, mantissa, exponent⟩
  | .infinity _ | .notANumber => none

theorem ofUnpacked?_unpack :
    Binary.ofUnpacked? (UnpackedFloat.unpack Format.binary64 bits) =
      if bits.toNat / leastNormal % 2048 = 2047 then
        none
      else if bits.toNat / leastNormal % 2048 = 0 then
        some ⟨bits.toNat / bound63 == 1, bits.toNat % leastNormal, leastExponent⟩
      else
        some ⟨bits.toNat / bound63 == 1, leastNormal + bits.toNat % leastNormal,
          ((bits.toNat / leastNormal % 2048 : Nat) : Int) - 1075⟩ := by
  have allOnes : unpackExponent bits = -1#_ ↔ bits.toNat / leastNormal % 2048 = 2047 := by
    rw [← toNat_unpackExponent, ← BitVec.toNat_inj]
    rfl
  have allZeros : unpackExponent bits = 0#_ ↔ bits.toNat / leastNormal % 2048 = 0 := by
    rw [← toNat_unpackExponent, ← BitVec.toNat_inj]
    rfl
  have noFraction : unpackMantissa bits = 0#_ ↔ bits.toNat % leastNormal = 0 := by
    rw [← toNat_unpackMantissa, ← BitVec.toNat_inj]
    rfl
  simp only [UnpackedFloat.unpack, allOnes, allZeros, noFraction]
  -- The exponent field tells apart what is not finite, what is too small for a leading digit, and
  -- the rest.
  by_cases special : bits.toNat / leastNormal % 2048 = 2047
  · simp only [if_pos special]
    split <;> rfl
  · simp only [if_neg special]
    by_cases small : bits.toNat / leastNormal % 2048 = 0
    · simp only [if_pos small]
      by_cases empty : bits.toNat % leastNormal = 0
      · simp [Binary.ofUnpacked?, ofBitVec_unpackSign, empty]
      · simp [Binary.ofUnpacked?, ofBitVec_unpackSign, toNat_unpackMantissa, empty,
          toNat_unpackExponent, small]
        rfl
    · simp only [if_neg small]
      simp only [Binary.ofUnpacked?, ofBitVec_unpackSign, toNat_unpackExponent]
      exact congrArg some (congrArg₂ (Binary.mk _) (toNat_leading_unpackMantissa bits) rfl)

end Unpacking

theorem Binary.ofFloat?_eq (number : Float) :
    ofFloat? number = ofUnpacked? number.toModel.unpack :=
  (ofUnpacked?_unpack number.toModel.toBits.toBitVec).symm

theorem Binary.isSome_ofFloat? (number : Float) :
    (ofFloat? number).isSome = number.isFinite := by
  rw [ofFloat?_eq]
  change _ = number.toModel.unpack.isFinite
  cases number.toModel.unpack <;> rfl

/-- How the bits of a number fix its significand and exponent: above the least exponent the
significand has its full length. -/
structure Binary.Canonical (number : Binary) : Prop where
  least : leastExponent ≤ number.exponent
  short : number.significand < 2 * leastNormal
  full : leastExponent < number.exponent → leastNormal ≤ number.significand

theorem Binary.canonical_of_ofFloat? {number : Float} {fraction : Binary}
    (read : ofFloat? number = some fraction) : fraction.Canonical := by
  have rest : number.toBits.toNat % leastNormal < leastNormal := Nat.mod_lt _ (by decide)
  simp only [ofFloat?] at read
  split at read
  · contradiction
  split at read <;> obtain rfl := Option.some.inj read
  · exact ⟨le_refl _, by simp only; omega, fun above => absurd above (lt_irrefl _)⟩
  · exact ⟨by simp only [leastExponent]; omega, by simp only; omega,
      fun _ => Nat.le_add_right _ _⟩

section Value

variable {α : Type} [Field α]

def magnitude (significand : Nat) (exponent : Int) : α :=
  significand * 2 ^ exponent

namespace Binary

def value (number : Binary) : α :=
  if number.negative then -magnitude number.significand number.exponent
  else magnitude number.significand number.exponent

theorem value_zero (sign : Bool) (exponent : Int) :
    ((⟨sign, 0, exponent⟩ : Binary).value : α) = 0 := by
  simp [value, magnitude]

theorem value_positive (significand : Nat) (exponent : Int) :
    (Binary.value ⟨Sign.positive == .negative, significand, exponent⟩ : α) =
      magnitude significand exponent :=
  rfl

theorem value_negative (significand : Nat) (exponent : Int) :
    (Binary.value ⟨Sign.negative == .negative, significand, exponent⟩ : α) =
      -magnitude significand exponent :=
  rfl

end Binary

/-- The exact value of a finite number; any other number counts as zero. -/
def exactly (number : Float) : α :=
  ((Binary.ofFloat? number).map Binary.value).getD 0

theorem exactly_of_ofFloat? {number : Float} {fraction : Binary}
    (read : Binary.ofFloat? number = some fraction) : (exactly number : α) = fraction.value := by
  simp [exactly, read]

@[simp] theorem exactly_zero : (exactly 0 : α) = 0 := by
  rw [exactly_of_ofFloat? (show _ = some ⟨false, 0, leastExponent⟩ from rfl), Binary.value_zero]

@[simp] theorem exactly_one [CharZero α] : (exactly 1 : α) = 1 := by
  rw [exactly_of_ofFloat? (show _ = some ⟨false, leastNormal, -52⟩ from rfl)]
  simp [Binary.value, magnitude, leastNormal]
  norm_num

variable [LinearOrder α] [IsStrictOrderedRing α]

theorem magnitude_pos {significand : Nat} (present : 0 < significand) (exponent : Int) :
    0 < (magnitude significand exponent : α) := by
  unfold magnitude
  positivity

namespace Binary

theorem magnitude_lt_of_exponent_lt {left right : Binary} (canonicalLeft : left.Canonical)
    (canonicalRight : right.Canonical) (lower : left.exponent < right.exponent) :
    (magnitude left.significand left.exponent : α) <
      magnitude right.significand right.exponent := by
  have short : (left.significand : α) < 2 * leastNormal := by exact_mod_cast canonicalLeft.short
  have full : (leastNormal : α) ≤ right.significand := by
    exact_mod_cast canonicalRight.full (lt_of_le_of_lt canonicalLeft.least lower)
  have positive : (0 : α) < 2 ^ left.exponent := by positivity
  calc (left.significand : α) * 2 ^ left.exponent
      < 2 * leastNormal * 2 ^ left.exponent := mul_lt_mul_of_pos_right short positive
    _ = leastNormal * 2 ^ (left.exponent + 1) := by
        rw [zpow_add_one₀ two_ne_zero, mul_assoc, mul_left_comm, mul_comm 2]
    _ ≤ leastNormal * 2 ^ right.exponent := by
        gcongr
        · norm_num
        · omega
    _ ≤ right.significand * 2 ^ right.exponent := by gcongr

/-- Apart from their signs, numbers are ordered by their exponents first, then by their
significands. -/
theorem magnitude_lt_magnitude_iff {left right : Binary} (canonicalLeft : left.Canonical)
    (canonicalRight : right.Canonical) :
    (magnitude left.significand left.exponent : α) < magnitude right.significand right.exponent ↔
      left.exponent < right.exponent ∨
        left.exponent = right.exponent ∧ left.significand < right.significand := by
  rcases lt_trichotomy left.exponent right.exponent with lower | level | higher
  · simp [lower, magnitude_lt_of_exponent_lt canonicalLeft canonicalRight lower]
  · have positive : (0 : α) < 2 ^ right.exponent := by positivity
    simp [magnitude, level, mul_lt_mul_iff_left₀ positive]
  · have larger := magnitude_lt_of_exponent_lt (α := α) canonicalRight canonicalLeft higher
    simp [not_lt_of_gt larger, not_lt_of_gt higher, higher.ne']

theorem compare_eq_lt_iff {left right : Binary} (canonicalLeft : left.Canonical)
    (canonicalRight : right.Canonical) :
    (compare left.exponent right.exponent).then (compare left.significand right.significand) =
        .lt ↔
      (magnitude left.significand left.exponent : α) <
        magnitude right.significand right.exponent := by
  rw [Ordering.then_eq_lt, compare_lt_iff_lt, compare_eq_iff_eq, compare_lt_iff_lt,
    magnitude_lt_magnitude_iff canonicalLeft canonicalRight]

theorem compare_eq_gt_iff {left right : Binary} (canonicalLeft : left.Canonical)
    (canonicalRight : right.Canonical) :
    (compare left.exponent right.exponent).then (compare left.significand right.significand) =
        .gt ↔
      (magnitude right.significand right.exponent : α) <
        magnitude left.significand left.exponent := by
  rw [Ordering.then_eq_gt, compare_gt_iff_gt, compare_eq_iff_eq, compare_gt_iff_gt,
    magnitude_lt_magnitude_iff canonicalRight canonicalLeft, eq_comm]

/-- Unpacked numbers compare by their signs, exponents and significands. That is the order of
their values. -/
theorem lt_iff_value_lt {left right : UnpackedFloat} {lower upper : Binary}
    (readLeft : ofUnpacked? left = some lower) (readRight : ofUnpacked? right = some upper)
    (canonicalLower : lower.Canonical) (canonicalUpper : upper.Canonical) :
    left.lt right = true ↔ (lower.value : α) < upper.value := by
  cases left with
  | infinity | notANumber => contradiction
  | zero sign =>
      obtain rfl := Option.some.inj readLeft
      cases right with
      | infinity | notANumber => contradiction
      | zero other =>
          obtain rfl := Option.some.inj readRight
          simp [value_zero, UnpackedFloat.lt, UnpackedFloat.compare]
      | finite other significand exponent present =>
          obtain rfl := Option.some.inj readRight
          have above : 0 < (magnitude significand exponent : α) := magnitude_pos present exponent
          cases other <;> simp only [value_zero, value_positive, value_negative] <;>
            simp [UnpackedFloat.lt, UnpackedFloat.compare, above, above.le]
  | finite sign significand exponent present =>
      obtain rfl := Option.some.inj readLeft
      have above : 0 < (magnitude significand exponent : α) := magnitude_pos present exponent
      cases right with
      | infinity | notANumber => contradiction
      | zero other =>
          obtain rfl := Option.some.inj readRight
          cases sign <;> simp only [value_zero, value_positive, value_negative] <;>
            simp [UnpackedFloat.lt, UnpackedFloat.compare, above, above.le]
      | finite other significand' exponent' present' =>
          obtain rfl := Option.some.inj readRight
          have above' : 0 < (magnitude significand' exponent' : α) :=
            magnitude_pos present' exponent'
          have upward := compare_eq_lt_iff (α := α) canonicalLower canonicalUpper
          have downward := compare_eq_gt_iff (α := α) canonicalLower canonicalUpper
          cases sign <;> cases other <;> simp only [value_positive, value_negative] <;>
            simp [UnpackedFloat.lt, UnpackedFloat.compare]
          -- Of two negative numbers the one of larger size is below the other.
          · exact downward
          · linarith
          · linarith
          · exact upward

end Binary

theorem lt_iff_unpack_lt (left right : Float) :
    left < right ↔ left.toModel.unpack.lt right.toModel.unpack = true := by
  change decide (left.toModel < right.toModel) = true ↔ _
  exact decide_eq_true_iff

theorem lt_iff_exactly_lt {left right : Float} (finiteLeft : left.isFinite = true)
    (finiteRight : right.isFinite = true) :
    left < right ↔ (exactly left : α) < exactly right := by
  obtain ⟨lower, readLower⟩ := Option.isSome_iff_exists.mp
    ((Binary.isSome_ofFloat? left).trans finiteLeft)
  obtain ⟨upper, readUpper⟩ := Option.isSome_iff_exists.mp
    ((Binary.isSome_ofFloat? right).trans finiteRight)
  have canonicalLower := Binary.canonical_of_ofFloat? readLower
  have canonicalUpper := Binary.canonical_of_ofFloat? readUpper
  rw [exactly_of_ofFloat? readLower, exactly_of_ofFloat? readUpper, lt_iff_unpack_lt]
  rw [Binary.ofFloat?_eq] at readLower readUpper
  exact Binary.lt_iff_value_lt readLower readUpper canonicalLower canonicalUpper

end Value

/-- No comparison with an undefined number holds. -/
theorem unpacked_isFinite_of_between {low number high : UnpackedFloat}
    (finiteLow : low.isFinite = true) (finiteHigh : high.isFinite = true)
    (above : low.lt number = true) (below : number.lt high = true) : number.isFinite = true := by
  cases number with
  | zero | finite => rfl
  | notANumber => cases low <;> contradiction
  | infinity sign =>
      cases sign with
      | negative => cases low <;> contradiction
      | positive => cases high <;> contradiction

theorem isFinite_of_between {low number high : Float} (finiteLow : low.isFinite = true)
    (finiteHigh : high.isFinite = true) (above : low < number) (below : number < high) :
    number.isFinite = true :=
  unpacked_isFinite_of_between finiteLow finiteHigh ((lt_iff_unpack_lt low number).mp above)
    ((lt_iff_unpack_lt number high).mp below)

end Retrieval.Decimal
