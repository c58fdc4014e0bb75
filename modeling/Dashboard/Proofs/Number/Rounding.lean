import Dashboard.Number.Double
import Mathlib.Algebra.Group.Int.Defs
import Mathlib.Algebra.Group.Nat.Defs
import Mathlib.Data.Nat.Log

/-!
# Integers rounded to binary64 numbers

The binary64 number nearest to an integer of 64 bits is an integer of 53 significant bits.
Rounding keeps the order of integers, but not strictly: distinct integers that round to the same
number are `2 ^ 53` at least, on either side of zero, and differ by 2048 at most.
-/

namespace Dashboard.Double

section Quotient

variable {numerator other denominator : Nat}

theorem roundQuotient_mul (quotient : Nat) (positive : 0 < denominator) :
    roundQuotient (quotient * denominator) denominator = quotient := by
  simp [roundQuotient, positive]

theorem roundQuotient_one (numerator : Nat) : roundQuotient numerator 1 = numerator := by
  simpa using roundQuotient_mul numerator Nat.one_pos

/-- A quotient is rounded by half a unit at most. -/
theorem roundQuotient_within_half (numerator : Nat) (positive : 0 < denominator) :
    2 * numerator ≤ 2 * (roundQuotient numerator denominator * denominator) + denominator ∧
      2 * (roundQuotient numerator denominator * denominator) ≤ 2 * numerator + denominator := by
  have split := Nat.div_add_mod numerator denominator
  have isLess := Nat.mod_lt numerator positive
  rw [Nat.mul_comm] at split
  unfold roundQuotient
  dsimp only
  split
  · omega
  · split
    · rcases Nat.mod_two_eq_zero_or_one (numerator / denominator) with isEven | isOdd
      · rw [isEven, Nat.add_zero]
        omega
      · rw [isOdd, Nat.add_mul]
        omega
    · rw [Nat.add_mul]
      omega

/-- Rounding keeps the order of quotients by one denominator. -/
theorem roundQuotient_mono (positive : 0 < denominator) (isLess : numerator ≤ other) :
    roundQuotient numerator denominator ≤ roundQuotient other denominator := by
  rcases Nat.eq_or_lt_of_le isLess with rfl | isLess
  · exact Nat.le_refl _
  have upper := (roundQuotient_within_half numerator positive).2
  have lower := (roundQuotient_within_half other positive).1
  by_contra greater
  have apart : (roundQuotient other denominator + 1) * denominator ≤
      roundQuotient numerator denominator * denominator :=
    Nat.mul_le_mul_right denominator (Nat.not_le.mp greater)
  rw [Nat.add_mul] at apart
  omega

end Quotient

/-- The unit of the 53 significant bits of a natural number. -/
def unitOf (value : Nat) : Nat := 2 ^ (value.log2 - 52)

/-- A natural number rounded to 53 significant bits. -/
def roundNat (value : Nat) : Nat := roundQuotient value (unitOf value) * unitOf value

/-- An integer rounded to 53 significant bits. -/
def roundInt (value : Int) : Int := value.sign * roundNat value.natAbs

section Natural

variable {value other : Nat}

theorem unitOf_pos (value : Nat) : 0 < unitOf value := Nat.two_pow_pos _

/-- A number of at most 53 bits is rounded to whole ones. -/
theorem unitOf_of_short (isShort : value.log2 ≤ 52) : unitOf value = 1 := by
  rw [unitOf, Nat.sub_eq_zero_of_le isShort, Nat.pow_zero]

/-- A number of 53 bits at most is exact. -/
theorem roundNat_of_short (isShort : value.log2 ≤ 52) : roundNat value = value := by
  rw [roundNat, unitOf_of_short isShort, roundQuotient_one, Nat.mul_one]

@[simp] theorem roundNat_zero : roundNat 0 = 0 := by decide

/-- A multiple of the unit bounds what a number is rounded to where it bounds the number. -/
theorem le_roundNat {count : Nat} (isLess : count * unitOf value ≤ value) :
    count * unitOf value ≤ roundNat value := by
  have rounded := roundQuotient_mono (unitOf_pos value) isLess
  rw [roundQuotient_mul count (unitOf_pos value)] at rounded
  exact Nat.mul_le_mul_right _ rounded

/-- A number is rounded to no more than any multiple of its unit above it. -/
theorem roundNat_le {count : Nat} (isLess : value ≤ count * unitOf value) :
    roundNat value ≤ count * unitOf value := by
  have rounded := roundQuotient_mono (unitOf_pos value) isLess
  rw [roundQuotient_mul count (unitOf_pos value)] at rounded
  exact Nat.mul_le_mul_right _ rounded

/-- A power of two that is not below the unit is a multiple of it. -/
theorem two_pow_eq_mul_unitOf {exponent : Nat} (isLess : value.log2 - 52 ≤ exponent) :
    2 ^ (exponent - (value.log2 - 52)) * unitOf value = 2 ^ exponent := by
  rw [unitOf, ← Nat.pow_add, Nat.sub_add_cancel isLess]

/-- Rounding does not make a number shorter. -/
theorem two_pow_log2_le_roundNat (positive : value ≠ 0) : 2 ^ value.log2 ≤ roundNat value := by
  have multiple := two_pow_eq_mul_unitOf (Nat.sub_le value.log2 52)
  rw [← multiple]
  exact le_roundNat (multiple ▸ Nat.log2_self_le positive)

/-- Rounding makes a number longer only up to the next power of two. -/
theorem roundNat_le_two_pow (value : Nat) : roundNat value ≤ 2 ^ (value.log2 + 1) := by
  have multiple := two_pow_eq_mul_unitOf
    (Nat.le_trans (Nat.sub_le value.log2 52) (Nat.le_succ value.log2))
  rw [← multiple]
  exact roundNat_le (multiple ▸ Nat.le_of_lt Nat.lt_log2_self)

theorem log2_mono (isLess : value ≤ other) : value.log2 ≤ other.log2 := by
  simpa only [Nat.log2_eq_log_two] using Nat.log_mono_right isLess

/-- Rounding keeps the order of natural numbers. -/
theorem roundNat_mono (isLess : value ≤ other) : roundNat value ≤ roundNat other := by
  by_cases isZero : value = 0
  · simp [isZero]
  rcases Nat.eq_or_lt_of_le (log2_mono isLess) with sameLength | longer
  · have sameUnit : unitOf value = unitOf other := by rw [unitOf, unitOf, sameLength]
    rw [roundNat, roundNat, sameUnit]
    exact Nat.mul_le_mul_right _ (roundQuotient_mono (unitOf_pos other) isLess)
  · calc roundNat value
      _ ≤ 2 ^ (value.log2 + 1) := roundNat_le_two_pow value
      _ ≤ 2 ^ other.log2 := Nat.pow_le_pow_right (by decide) longer
      _ ≤ roundNat other := two_pow_log2_le_roundNat (by omega)

/-- Up to `2 ^ 53` a number is exact. -/
theorem roundNat_of_le (isLess : value ≤ 2 ^ 53) : roundNat value = value := by
  rcases Nat.eq_or_lt_of_le isLess with rfl | isLess
  · decide
  · by_cases isZero : value = 0
    · simp [isZero]
    · exact roundNat_of_short (Nat.le_of_lt_succ ((Nat.log2_lt isZero).mpr isLess))

end Natural

section Nearest

variable {value : Nat}

/-- Of a shift between two lengths, the part upwards stands in the numerator and the part downwards
in the denominator. -/
theorem scale_natural (value bits length : Nat) :
    scale value 1 ((bits : Int) - length) = (value * 2 ^ (bits - length), 2 ^ (length - bits)) := by
  unfold scale
  split
  · have isShift : ((bits : Int) - length).toNat = bits - length := by omega
    have noShift : length - bits = 0 := by omega
    rw [isShift, noShift]
    rfl
  · have isShift : (-((bits : Int) - length)).toNat = length - bits := by omega
    have noShift : bits - length = 0 := by omega
    rw [isShift, noShift, Nat.pow_zero, Nat.mul_one, Nat.one_mul]
    rfl

/-- A natural number has its 53 bits behind the exponent that its length gives. -/
theorem targetExponent_natural (positive : value ≠ 0) :
    targetExponent value 1 0 = (value.log2 : Int) - 52 := by
  have isEstimate : max minExponent ((value.log2 : Int) - Nat.log2 1 + 0 - 53) =
      (value.log2 : Int) - 53 := by
    have isZero : Nat.log2 1 = 0 := by decide
    rw [isZero, minExponent]
    omega
  have isShift : 0 - ((value.log2 : Int) - 53) = (53 : Nat) - value.log2 := by omega
  -- One exponent lower a significand has 54 bits.
  have tooLarge : significandBound ≤ value * 2 ^ (53 - value.log2) / 2 ^ (value.log2 - 53) := by
    refine (Nat.le_div_iff_mul_le (Nat.two_pow_pos _)).mpr ?_
    calc 2 ^ 53 * 2 ^ (value.log2 - 53)
      _ = 2 ^ value.log2 * 2 ^ (53 - value.log2) := by
        rw [← Nat.pow_add, ← Nat.pow_add]
        congr 1
        omega
      _ ≤ value * 2 ^ (53 - value.log2) := Nat.mul_le_mul_right _ (Nat.log2_self_le positive)
  unfold targetExponent
  rw [isEstimate]
  dsimp only
  rw [isShift, scale_natural]
  dsimp only
  rw [if_neg (Nat.not_lt.mpr tooLarge)]
  omega

/-- The significand of a natural number has 53 bits, or is the next power of two. -/
theorem significand_natural_le (value : Nat) :
    roundQuotient (value * 2 ^ (52 - value.log2)) (unitOf value) ≤ 2 ^ 53 := by
  have isLess : value * 2 ^ (52 - value.log2) ≤ 2 ^ 53 * unitOf value :=
    calc value * 2 ^ (52 - value.log2)
      _ ≤ 2 ^ (value.log2 + 1) * 2 ^ (52 - value.log2) :=
        Nat.mul_le_mul_right _ (Nat.le_of_lt Nat.lt_log2_self)
      _ = 2 ^ 53 * 2 ^ (value.log2 - 52) := by
        rw [← Nat.pow_add, ← Nat.pow_add]
        congr 1
        omega
  rw [← roundQuotient_mul (2 ^ 53) (unitOf_pos value)]
  exact roundQuotient_mono (unitOf_pos value) isLess

/-- How many of the units in which values compare make one. -/
def unitsOfOne : Nat := 2 ^ minExponent.natAbs

theorem unitsOfOne_pos : 0 < unitsOfOne := Nat.two_pow_pos _

/-- The powers by which a significand is scaled up and down meet in the unit of the number. -/
theorem two_pow_mul_two_pow (value : Nat) :
    2 ^ (52 - value.log2) * 2 ^ (value.log2 + 1022) = unitOf value * unitsOfOne := by
  have isExponent : 52 - value.log2 + (value.log2 + 1022) =
      value.log2 - 52 + minExponent.natAbs := by
    rw [minExponent]
    omega
  rw [← Nat.pow_add, isExponent, Nat.pow_add, unitOf, unitsOfOne]

/-- Scaling a short number to 53 bits is undone by its exponent. -/
theorem significand_natural (value : Nat) :
    roundQuotient (value * 2 ^ (52 - value.log2)) (unitOf value) * 2 ^ (value.log2 + 1022) =
      roundNat value * unitsOfOne := by
  have scaled := two_pow_mul_two_pow value
  by_cases isLong : 52 ≤ value.log2
  · have unscaled : 2 ^ (52 - value.log2) = 1 := by rw [Nat.sub_eq_zero_of_le isLong, Nat.pow_zero]
    rw [unscaled, Nat.one_mul] at scaled
    rw [unscaled, Nat.mul_one, scaled, roundNat, Nat.mul_assoc]
  · have isShort : value.log2 ≤ 52 := by omega
    rw [unitOf_of_short isShort, Nat.one_mul] at scaled
    rw [unitOf_of_short isShort, roundQuotient_one, roundNat_of_short isShort, Nat.mul_assoc,
      scaled]

/-- The binary64 number nearest to a natural number below `2 ^ 64` has the rounded value. -/
theorem nearest_natural (negative : Bool) (positive : value ≠ 0) (isShort : value.log2 < 64) :
    ∃ rounded, ofQuotient negative value 1 0 = some rounded ∧ rounded.negative = negative ∧
      rounded.significand * Nat.pow 2 (rounded.exponent - minExponent).toNat =
        roundNat value * unitsOfOne := by
  have isShift : 0 - ((value.log2 : Int) - 52) = (52 : Nat) - value.log2 := by omega
  have isExponent : ((value.log2 : Int) - 52 - minExponent).toNat = value.log2 + 1022 := by
    rw [minExponent]
    omega
  have isNextExponent : ((value.log2 : Int) - 52 + 1 - minExponent).toNat =
      value.log2 + 1022 + 1 := by
    rw [minExponent]
    omega
  have isValue := significand_natural value
  have bounded := significand_natural_le value
  unfold ofQuotient
  rw [if_neg positive, targetExponent_natural positive]
  dsimp only
  rw [isShift, scale_natural]
  dsimp only
  rw [← unitOf]
  generalize roundQuotient (value * 2 ^ (52 - value.log2)) (unitOf value) = significand at *
  by_cases isLess : significand < significandBound
  · rw [if_pos isLess]
    refine ⟨_, if_pos ?_, rfl, ?_⟩
    · simp only [maxExponent]
      omega
    · simp only [isExponent]
      exact isValue
  · obtain rfl : significand = 2 ^ 53 := Nat.le_antisymm bounded (Nat.not_lt.mp isLess)
    rw [if_neg isLess]
    refine ⟨_, if_pos ?_, rfl, ?_⟩
    · simp only [maxExponent]
      omega
    · simp only [isNextExponent]
      change 2 ^ 53 / 2 * 2 ^ (value.log2 + 1022 + 1) = roundNat value * unitsOfOne
      rw [← isValue, Nat.pow_succ]
      omega

end Nearest

/-- An integer fits 64 bits, signed or unsigned. -/
def IsWord (value : Int) : Prop := -2 ^ 63 ≤ value ∧ value < 2 ^ 64

/-- The binary64 numbers nearest to two integers have the same value. -/
def Merge (left right : Int) : Prop := (ofInt left).units = (ofInt right).units

/-- Two integers are so large and so close that they may round to the same number. -/
structure Near (left right : Int) : Prop where
  leftIsLarge : 2 ^ 53 ≤ left.natAbs
  rightIsLarge : 2 ^ 53 ≤ right.natAbs
  isClose : (left - right).natAbs ≤ 2048

section Integer

variable {value left right : Int}

instance : Decidable (IsWord value) := inferInstanceAs (Decidable (_ ∧ _))

instance : Decidable (Merge left right) := inferInstanceAs (Decidable (_ = _))

theorem roundInt_natCast (value : Nat) : roundInt value = roundNat value := by
  cases value with
  | zero => simp [roundInt]
  | succ value =>
    rw [roundInt, Int.sign_natCast_of_ne_zero (Nat.succ_ne_zero value), Int.one_mul,
      Int.natAbs_natCast]

theorem roundInt_neg (value : Int) : roundInt (-value) = -roundInt value := by
  rw [roundInt, roundInt, Int.sign_neg, Int.natAbs_neg, Int.neg_mul]

/-- Rounding keeps the order of integers. -/
theorem roundInt_mono (isLess : left ≤ right) : roundInt left ≤ roundInt right := by
  obtain ⟨left, rfl | rfl⟩ := left.eq_nat_or_neg <;>
    obtain ⟨right, rfl | rfl⟩ := right.eq_nat_or_neg <;>
    simp only [roundInt_neg, roundInt_natCast]
  · have isLess := @roundNat_mono left right (by omega)
    omega
  · obtain rfl : left = 0 := by omega
    obtain rfl : right = 0 := by omega
    simp
  · omega
  · have isLess := @roundNat_mono right left (by omega)
    omega

/-- Up to `2 ^ 53` an integer is exact. -/
theorem roundInt_of_natAbs_le (isLess : value.natAbs ≤ 2 ^ 53) : roundInt value = value := by
  rw [roundInt, roundNat_of_le isLess, Int.sign_mul_natAbs]

/-- An integer of 64 bits has at most 64 of them. -/
theorem log2_natAbs_lt (isWord : IsWord value) : value.natAbs.log2 < 64 := by
  unfold IsWord at isWord
  by_cases isZero : value.natAbs = 0
  · simp [isZero]
  · exact (Nat.log2_lt isZero).mpr (by omega)

/-- The value of the nearest binary64 number is the rounded integer. -/
theorem units_ofInt (isWord : IsWord value) :
    (ofInt value).units = roundInt value * unitsOfOne := by
  by_cases isZero : value = 0
  · have isUnits : (ofInt 0).units = 0 := by decide
    rw [isZero, isUnits, roundInt, Int.sign_zero, Int.zero_mul, Int.zero_mul]
  obtain ⟨rounded, found, isSign, isMagnitude⟩ := nearest_natural (decide (value < 0))
    (Int.natAbs_ne_zero.mpr isZero) (log2_natAbs_lt isWord)
  rw [ofInt, found, Option.getD_some, units, isMagnitude, isSign, roundInt]
  rcases Int.lt_or_gt_of_ne isZero with isNegative | isPositive
  · rw [if_pos (by simpa using isNegative), Int.sign_eq_neg_one_of_neg isNegative, Int.neg_mul,
      Int.neg_mul, Int.one_mul, Int.natCast_mul]
  · rw [if_neg (by simpa using Int.le_of_lt isPositive), Int.sign_eq_one_of_pos isPositive,
      Int.one_mul, Int.natCast_mul]

/-- The binary64 numbers nearest to integers are ordered as the rounded integers are. -/
theorem units_ofInt_le_iff (leftIsWord : IsWord left) (rightIsWord : IsWord right) :
    (ofInt left).units ≤ (ofInt right).units ↔ roundInt left ≤ roundInt right := by
  rw [units_ofInt leftIsWord, units_ofInt rightIsWord]
  exact Int.mul_le_mul_right (Int.natCast_pos.mpr unitsOfOne_pos)

/-- Two integers merge exactly when they are rounded to the same one. -/
theorem merge_iff (leftIsWord : IsWord left) (rightIsWord : IsWord right) :
    Merge left right ↔ roundInt left = roundInt right := by
  rw [Merge, Int.le_antisymm_iff, units_ofInt_le_iff leftIsWord rightIsWord,
    units_ofInt_le_iff rightIsWord leftIsWord, ← Int.le_antisymm_iff]

/-- An integer of 64 bits is rounded by 1024 at most. -/
theorem roundInt_within (isWord : IsWord value) :
    value ≤ roundInt value + 1024 ∧ roundInt value ≤ value + 1024 := by
  have isShort := log2_natAbs_lt isWord
  have isFine : unitOf value.natAbs ≤ 2 ^ 11 := Nat.pow_le_pow_right (by decide) (by omega)
  obtain ⟨lower, upper⟩ := roundQuotient_within_half value.natAbs (unitOf_pos value.natAbs)
  rw [← roundNat] at lower upper
  obtain ⟨magnitude, rfl | rfl⟩ := value.eq_nat_or_neg <;>
    simp only [roundInt_neg, roundInt_natCast, Int.natAbs_neg, Int.natAbs_natCast] at * <;>
    omega

/-- An integer below `2 ^ 53` is the only one that rounds to it. -/
theorem le_natAbs_of_roundInt_eq (same : roundInt left = roundInt right) (differ : left ≠ right) :
    2 ^ 53 ≤ left.natAbs := by
  by_contra isSmall
  have isExact : roundInt left = left := roundInt_of_natAbs_le (by omega)
  by_cases otherIsSmall : right.natAbs ≤ 2 ^ 53
  · rw [isExact, roundInt_of_natAbs_le otherIsSmall] at same
    exact differ same
  · have upperIsExact : roundInt (2 ^ 53) = 2 ^ 53 := roundInt_of_natAbs_le (by decide)
    have lowerIsExact : roundInt (-2 ^ 53) = -2 ^ 53 := roundInt_of_natAbs_le (by decide)
    rcases Int.le_total 0 right with isPositive | isNegative
    · have isAbove := roundInt_mono (show 2 ^ 53 ≤ right by omega)
      omega
    · have isBelow := roundInt_mono (show right ≤ -2 ^ 53 by omega)
      omega

/-- Distinct integers that merge are large and close to each other. -/
theorem Merge.near (merge : Merge left right) (leftIsWord : IsWord left)
    (rightIsWord : IsWord right) (differ : left ≠ right) : Near left right := by
  have same := (merge_iff leftIsWord rightIsWord).mp merge
  have leftWithin := roundInt_within leftIsWord
  have rightWithin := roundInt_within rightIsWord
  exact ⟨le_natAbs_of_roundInt_eq same differ, le_natAbs_of_roundInt_eq same.symm differ.symm,
    by omega⟩

end Integer

end Dashboard.Double
