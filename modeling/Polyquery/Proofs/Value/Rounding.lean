import Polyquery.Proofs.Decimal.Whole
import Polyquery.Proofs.Value.Rank

/-!
# Whole numbers round in order

A whole number becomes the nearest floating point number: its binary digits are shifted to the
right until 53 are left, and what is shifted out decides about the last one.  Every step keeps the
order of numbers, and so does rounding as a whole: the larger of two whole numbers never becomes
the smaller floating point number, but different ones may become the same.
-/

namespace Polyquery.Double

open Float.Model (Format UnpackedFloat)
open Float.Model.UnpackedFloat

variable {sign : Sign} {m n k : ℕ} {e : ℤ}

/-! ## Shifting -/

/-- The digits that are kept, the first that is not, and whether there are others, as one
number. -/
def weight (extended : ExtendedMantissa) : ℕ :=
  4 * extended.mantissa + 2 * extended.roundBit.toNat + extended.stickyBit.toNat

theorem four_mul_half_add (m : ℕ) : 4 * (m / 2) + 2 * (m % 2 != 0).toNat = 2 * m := by
  rcases Nat.mod_two_eq_zero_or_one m with even | odd
  · rw [even]
    change 4 * (m / 2) + 0 = 2 * m
    omega
  · rw [odd]
    change 4 * (m / 2) + 2 = 2 * m
    omega

/-- The last digit that is kept becomes the first that is not, and what was behind it counts only
as something or nothing. -/
theorem weight_shiftRightOne (extended : ExtendedMantissa) :
    weight extended.shiftRightOne =
      2 * (weight extended / 4) + if weight extended % 4 = 0 then 0 else 1 := by
  obtain ⟨mantissa, round, sticky⟩ := extended
  rw [weight, ExtendedMantissa.shiftRightOne, four_mul_half_add]
  cases round <;> cases sticky <;> simp only [weight] <;> split_ifs <;> simp_all <;> omega

theorem weight_shiftRightOne_le {first second : ExtendedMantissa}
    (less : weight first ≤ weight second) :
    weight first.shiftRightOne ≤ weight second.shiftRightOne := by
  rw [weight_shiftRightOne, weight_shiftRightOne]
  split_ifs <;> omega

theorem weight_shiftRight_le {first second : ExtendedMantissa}
    (less : weight first ≤ weight second) (n : ℕ) :
    weight (first >>> n) ≤ weight (second >>> n) := by
  induction n with
  | zero => exact less
  | succ n ih => exact weight_shiftRightOne_le ih

theorem roundedMantissa_mono {first second : ExtendedMantissa}
    (less : weight first ≤ weight second) : first.roundedMantissa ≤ second.roundedMantissa := by
  obtain ⟨mantissa, _ | _, _ | _⟩ := first <;> obtain ⟨mantissa', _ | _, _ | _⟩ := second <;>
    simp [weight, ExtendedMantissa.roundedMantissa, ExtendedMantissa.accuracy,
      Accuracy.roundToNearestEven] at less ⊢ <;> omega

/-- The digits that are left when `n` binary digits are rounded away. -/
def rounded (m n : ℕ) : ℕ :=
  ((⟨m, false, false⟩ : ExtendedMantissa) >>> n).roundedMantissa

theorem rounded_mono (n : ℕ) {m m' : ℕ} (less : m ≤ m') : rounded m n ≤ rounded m' n := by
  apply roundedMantissa_mono
  apply weight_shiftRight_le
  simpa [weight] using less

theorem shiftRight_two_pow_mul (m n : ℕ) :
    (⟨2 ^ n * m, false, false⟩ : ExtendedMantissa) >>> n = ⟨m, false, false⟩ := by
  induction n generalizing m with
  | zero =>
      rw [pow_zero, one_mul]
      rfl
  | succ n ih =>
      have last : (⟨2 * m, false, false⟩ : ExtendedMantissa).shiftRightOne = ⟨m, false, false⟩ := by
        simp [ExtendedMantissa.shiftRightOne]
      rw [pow_succ, mul_assoc, ← last, ← ih (2 * m)]
      rfl

theorem shiftRight_add (extended : ExtendedMantissa) (n k : ℕ) :
    extended >>> (n + k) = extended >>> n >>> k := by
  induction k with
  | zero => rfl
  | succ k ih => exact congrArg ExtendedMantissa.shiftRightOne ih

/-- Zeros are rounded away without a trace. -/
theorem rounded_two_pow_mul (m n k : ℕ) : rounded (2 ^ n * m) (n + k) = rounded m k := by
  rw [rounded, shiftRight_add, shiftRight_two_pow_mul, rounded]

theorem rounded_of_two_pow_mul (m n : ℕ) : rounded (2 ^ n * m) n = m :=
  rounded_two_pow_mul m n 0

/-- Of 53 digits and more, 53 are left, or the next power of two. -/
theorem rounded_bounds (low : 2 ^ (52 + n) ≤ m) (high : m ≤ 2 ^ (53 + n)) :
    2 ^ 52 ≤ rounded m n ∧ rounded m n ≤ 2 ^ 53 := by
  have least := rounded_of_two_pow_mul (2 ^ 52) n
  have most := rounded_of_two_pow_mul (2 ^ 53) n
  rw [← pow_add, Nat.add_comm n] at least most
  exact ⟨least.ge.trans (rounded_mono n low), (rounded_mono n high).trans most.le⟩

/-! ## Rounding to the format -/

theorem log2_two_pow_mul (positive : 0 < m) (n : ℕ) : (2 ^ n * m).log2 = m.log2 + n := by
  induction n with
  | zero => rw [pow_zero, one_mul, add_zero]
  | succ n ih =>
      rw [pow_succ', mul_assoc, Nat.log2_two_mul (by positivity), ih, add_assoc]

/-- Of a number of at least 53 digits 53 are kept. -/
theorem shiftToTargetExponent_eq (digits : m.log2 = 52 + n) (least : -1074 ≤ e + n) :
    shiftToTargetExponent .binary64 m e .exact =
      ((⟨m, false, false⟩ : ExtendedMantissa) >>> n, e + n) := by
  have bits : Format.mantissaBits .binary64 = 53 := rfl
  have minimum : Format.minExponent .binary64 = -1074 := rfl
  have amount : (max (m.log2 + 1 + e - 53) (-1074) - e).toNat = n := by omega
  simp only [shiftToTargetExponent, shiftToExponent, Format.targetExponent, bits, minimum,
    Float.Model.totalExponent, ExtendedMantissa.ofMantissaAndAccuracy, Nat.cast_ofNat, amount]

/-- Rounding may add a digit, so that numbers are shifted twice. -/
theorem roundWithAccuracy_of_shifts {first second : ExtendedMantissa} {e' e'' : ℤ} (sign : Sign)
    (shift : shiftToTargetExponent .binary64 m e .exact = (first, e'))
    (again : shiftToTargetExponent .binary64 first.roundedMantissa e' .exact = (second, e''))
    (positive : 0 < second.mantissa) :
    roundWithAccuracy .binary64 sign m e .exact = .finite sign second.mantissa e'' positive := by
  simp only [roundWithAccuracy, shift, again]
  exact dif_neg positive.ne'

/-- Where a number of at least 53 digits is after rounding. -/
theorem roundWithAccuracy_eq (sign : Sign) (digits : m.log2 = 52 + n) (least : -1074 ≤ e + n) :
    ∃ m' e' positive', roundWithAccuracy .binary64 sign m e .exact = .finite sign m' e' positive' ∧
      Fits m' e' ∧ place m' e' = place (rounded m n) (e + n) := by
  have positive : m ≠ 0 := by
    rintro rfl
    rw [Nat.log2_zero] at digits
    omega
  obtain ⟨low, high⟩ : 2 ^ 52 ≤ rounded m n ∧ rounded m n ≤ 2 ^ 53 :=
    rounded_bounds (digits ▸ Nat.log2_self_le positive)
      (Nat.lt_log2_self.trans_eq (by rw [digits]; ring)).le
  have shift := shiftToTargetExponent_eq digits least
  rcases high.lt_or_eq with fewer | next
  · have kept : (rounded m n).log2 = 52 + 0 :=
      (Nat.log2_eq_iff (by omega)).mpr ⟨low, by simpa using fewer⟩
    have again := shiftToTargetExponent_eq kept (e := e + n) (by omega)
    have some : 0 < rounded m n := by omega
    have fits : Fits (rounded m n) (e + n + (0 : ℕ)) := ⟨some, fewer, by omega, .inr low⟩
    refine ⟨_, _, _, roundWithAccuracy_of_shifts sign shift again some, fits, ?_⟩
    rw [Nat.cast_zero, add_zero]
    rfl
  · have more : (rounded m n).log2 = 52 + 1 := by rw [next, Nat.log2_two_pow]
    have again := shiftToTargetExponent_eq more (e := e + n) (by omega)
    have half : ((⟨rounded m n, false, false⟩ : ExtendedMantissa) >>> 1).mantissa = 2 ^ 52 := by
      rw [next]
      rfl
    refine ⟨_, _, _, roundWithAccuracy_of_shifts sign shift again (by omega),
      ⟨by omega, by omega, by omega, .inr half.ge⟩, ?_⟩
    rw [place, place, half, next]
    push_cast
    ring

/-- A number with its digits and zeros behind them stays what it is. -/
theorem roundWithAccuracy_two_pow_mul (sign : Sign) (fits : Fits m e) (normal : 2 ^ 52 ≤ m)
    (n : ℕ) (positive : 0 < m) :
    roundWithAccuracy .binary64 sign (2 ^ n * m) (e - n) .exact = .finite sign m e positive := by
  have digits : (2 ^ n * m).log2 = 52 + n := by
    have highest : m.log2 = 52 := (Nat.log2_eq_iff positive.ne').mpr ⟨normal, fits.digits⟩
    rw [log2_two_pow_mul positive, highest]
  obtain ⟨m', e', positive', result, fits', same⟩ :=
    roundWithAccuracy_eq sign digits (e := e - n) (by have := fits.least; omega)
  rw [rounded_of_two_pow_mul, sub_add_cancel] at same
  obtain ⟨rfl, rfl⟩ := fits'.eq_of_place_eq fits same
  exact result

/-! ## Whole numbers -/

/-- The place of a positive whole number after rounding. -/
def level (n : ℕ) : ℤ :=
  place (rounded (2 ^ 53 * n) (n.log2 + 1)) (n.log2 - 52)

theorem level_bounds (positive : 0 < n) :
    place (2 ^ 52) (n.log2 - 52) ≤ level n ∧ level n ≤ place (2 ^ 53) (n.log2 - 52) := by
  have low : 2 ^ (52 + (n.log2 + 1)) ≤ 2 ^ 53 * n := by
    rw [show 52 + (n.log2 + 1) = 53 + n.log2 by omega, pow_add]
    exact Nat.mul_le_mul_left _ (Nat.log2_self_le positive.ne')
  have high : 2 ^ 53 * n ≤ 2 ^ (53 + (n.log2 + 1)) := by
    rw [pow_add]
    exact Nat.mul_le_mul_left _ Nat.lt_log2_self.le
  obtain ⟨least, most⟩ := rounded_bounds low high
  unfold level place
  omega

theorem level_pos (positive : 0 < n) : 0 < level n := by
  have bound := (level_bounds positive).1
  unfold place at bound
  omega

/-- The larger of two numbers does not get the lower place. -/
theorem level_le {n' : ℕ} (positive : 0 < n) (less : n ≤ n') : level n ≤ level n' := by
  have nonzero : n' ≠ 0 := by omega
  have digits : n.log2 ≤ n'.log2 :=
    (Nat.le_log2 nonzero).mpr ((Nat.log2_self_le positive.ne').trans less)
  rcases digits.lt_or_eq with fewer | same
  · have high := (level_bounds positive).2
    have low := (level_bounds (positive.trans_le less)).1
    unfold place at high low
    omega
  · have digits := rounded_mono (n'.log2 + 1) (Nat.mul_le_mul_left (2 ^ 53) less)
    unfold level place
    rw [same]
    omega

/-! ### Conversion -/

/-- A number of at most 53 digits keeps them. -/
theorem fits_of_lt (positive : 0 < n) (small : n < 2 ^ 53) :
    Fits (2 ^ (52 - n.log2) * n) (n.log2 - 52) ∧ 2 ^ 52 ≤ 2 ^ (52 - n.log2) * n ∧
      level n = place (2 ^ (52 - n.log2) * n) (n.log2 - 52) := by
  have few : n.log2 < 53 := (Nat.log2_lt positive.ne').mpr small
  have some : 0 < 2 ^ (52 - n.log2) * n := by positivity
  obtain ⟨low, high⟩ := (Nat.log2_eq_iff some.ne').mp
    ((log2_two_pow_mul positive (52 - n.log2)).trans (Nat.add_sub_cancel' (by omega)))
  refine ⟨⟨some, high, by omega, .inr low⟩, low, ?_⟩
  have zeros : 2 ^ 53 * n = 2 ^ (n.log2 + 1) * (2 ^ (52 - n.log2) * n) := by
    rw [← mul_assoc, ← pow_add]
    congr 2
    omega
  rw [level, zeros, rounded_of_two_pow_mul]

theorem ofNat_eq_of_lt (positive : 0 < n) (small : n < 2 ^ 53)
    (positive' : 0 < 2 ^ (52 - n.log2) * n) :
    UnpackedFloat.ofNat .binary64 n =
      .finite .positive (2 ^ (52 - n.log2) * n) (n.log2 - 52) positive' := by
  have few : n.log2 < 53 := (Nat.log2_lt positive.ne').mpr small
  obtain ⟨fits, normal, -⟩ := fits_of_lt positive small
  have greater : compare (n : ℤ) 0 = .gt := compare_gt_iff_gt.mpr (by omega)
  have bits : Format.mantissaBits .binary64 = 53 := rfl
  have minimum : Format.minExponent .binary64 = -1074 := rfl
  have amount : (0 - max ((n.log2 : ℤ) + 1 + 0 - (53 : ℕ)) (-1074)).toNat = 52 - n.log2 := by omega
  have exponent : (0 : ℤ) - (52 - n.log2 : ℕ) = n.log2 - 52 - (0 : ℕ) := by omega
  have result := roundWithAccuracy_two_pow_mul .positive fits normal 0 positive'
  rw [pow_zero, one_mul] at result
  simp only [UnpackedFloat.ofNat, UnpackedFloat.ofInt, UnpackedFloat.normalize, greater,
    Int.toNat_natCast, UnpackedFloat.round, decreaseExponent, Format.targetExponent,
    Float.Model.totalExponent, bits, minimum, amount, exponent, Nat.shiftLeft_eq, Nat.mul_comm n]
  exact result

theorem unpack_one : (Float.ofBits 0x3FF0000000000000).toModel.unpack =
    .finite .positive (2 ^ 52) (-52) (by decide) := by
  rfl

theorem rankOf?_ofNat_of_lt (positive : 0 < n) (small : n < 2 ^ 53) :
    rankOf? (Float.ofNat n) = some (min (level n) top) := by
  obtain ⟨fits, normal, same⟩ := fits_of_lt positive small
  have few : n.log2 < 53 := (Nat.log2_lt positive.ne').mpr small
  have word : n.toUInt64.toNat = n := by
    rw [Nat.toUInt64_eq, UInt64.toNat_ofNat', Nat.mod_eq_of_lt (by omega)]
  have exact : n.toUInt64.toFloat.toModel.unpack =
      .finite .positive (2 ^ (52 - n.log2) * n) (n.log2 - 52) fits.positive := by
    change unpack .binary64 (pack .binary64 (UnpackedFloat.ofNat .binary64 n.toUInt64.toNat)) = _
    rw [word, ofNat_eq_of_lt positive small fits.positive,
      unpack_pack_finite fits (by omega) fits.positive]
  have product : Float.ofNat n = n.toUInt64.toFloat * Float.ofBits 0x3FF0000000000000 := by
    change Float.ofScientific n false 0 = _
    rw [Float.ofScientific, dif_pos ⟨small, by decide⟩]
    rfl
  have times : UnpackedFloat.mul .binary64 n.toUInt64.toFloat.toModel.unpack
      (Float.ofBits 0x3FF0000000000000).toModel.unpack =
      .finite .positive (2 ^ (52 - n.log2) * n) (n.log2 - 52) fits.positive := by
    rw [exact, unpack_one]
    have result := roundWithAccuracy_two_pow_mul .positive fits normal 52 fits.positive
    rw [Nat.mul_comm] at result
    exact result
  rw [product, same]
  change rank? (unpack .binary64 (pack .binary64 (UnpackedFloat.mul .binary64
    n.toUInt64.toFloat.toModel.unpack (Float.ofBits 0x3FF0000000000000).toModel.unpack))) = _
  rw [times]
  exact rank?_unpack_pack fits fits.positive

theorem rankOf?_ofNat (positive : 0 < n) :
    rankOf? (Float.ofNat n) = some (min (level n) top) := by
  rcases lt_or_ge n (2 ^ 53) with small | large
  · exact rankOf?_ofNat_of_lt positive small
  · have digits : (2 ^ 53 * n).log2 = 52 + (n.log2 + 1) := by
      rw [log2_two_pow_mul positive]
      omega
    obtain ⟨m, e, some, result, fits, same⟩ :=
      roundWithAccuracy_eq .positive digits (e := -53) (by omega)
    have exponent : (-53 : ℤ) + (n.log2 + 1 : ℕ) = n.log2 - 52 := by omega
    rw [exponent] at same
    rw [Decimal.ofNat_eq_of_le large, result, level, ← same]
    exact rank?_unpack_pack fits some

/-- The rank of a whole number as a floating point number. -/
def rankOfInt : ℤ → ℤ
  | .ofNat n => if n = 0 then 0 else min (level n) top
  | .negSucc n => -min (level (n + 1)) top

theorem rankOf?_ofInt (n : ℤ) : rankOf? (Float.ofInt n) = some (rankOfInt n) := by
  match n with
  | .ofNat 0 => rfl
  | .ofNat (n + 1) => exact rankOf?_ofNat n.succ_pos
  | .negSucc n =>
    change rankOf? (Float.ofNat (n + 1)).neg = _
    rw [rankOf?_neg, rankOf?_ofNat n.succ_pos, Option.map_some, rankOfInt]

/-- Rounding keeps the order of whole numbers. -/
theorem rankOfInt_mono {n n' : ℤ} (less : n ≤ n') : rankOfInt n ≤ rankOfInt n' := by
  have high : 0 < top := by decide
  match n, n' with
  | .ofNat n, .ofNat n' =>
    rcases n.eq_zero_or_pos with rfl | positive
    · rcases n'.eq_zero_or_pos with rfl | positive'
      · exact le_rfl
      · have := level_pos positive'
        simp only [rankOfInt, if_true, if_neg positive'.ne']
        omega
    · have within : n ≤ n' := Int.ofNat_le.mp less
      have := level_le positive within
      simp only [rankOfInt, if_neg positive.ne', if_neg (positive.trans_le within).ne']
      omega
  | .negSucc n, .ofNat n' =>
    have positive : 0 < level (n + 1) := level_pos n.succ_pos
    rcases n'.eq_zero_or_pos with rfl | positive'
    · simp only [rankOfInt, if_true]
      omega
    · have := level_pos positive'
      simp only [rankOfInt, if_neg positive'.ne']
      omega
  | .negSucc n, .negSucc n' =>
    have : level (n' + 1) ≤ level (n + 1) := level_le n'.succ_pos (by omega)
    simp only [rankOfInt]
    omega
  | .ofNat n, .negSucc n' =>
    exact absurd ((Int.natCast_nonneg n).trans less) (Int.negSucc_not_nonneg n').mp

end Polyquery.Double
