import Mathlib
import Polyquery.Decimal.Shortest

/-!
# The nearest floating point number

A rational number is rounded to the multiples of a power of two that leave it 53 binary
digits, or to the multiples of the smallest positive number.  The reals that round to a
double precision number are an interval around it, and its ends belong to it exactly if
the mantissa is even.
-/

namespace Polyquery.Decimal

/-- The whole number nearest to a number.  Of two equally near ones it is the even one. -/
def halfEven (q : ℚ) : ℕ :=
  let below := ⌊q⌋₊
  if q - below < 1 / 2 then below
  else if 1 / 2 < q - below then below + 1
  else if below % 2 = 0 then below
  else below + 1

/-- The exponent of the last binary place of a positive number in double precision. -/
def lastPlace (q : ℚ) : ℤ :=
  max (Int.log 2 q - 52) (-1074)

/-- The bits of the double precision number nearest to a number that is not negative.  A
mantissa that is rounded up to the next power of two carries into the exponent. -/
def nearestBits (q : ℚ) : ℕ :=
  if q = 0 then 0
  else (lastPlace q + 1074).toNat * 2 ^ 52 + halfEven (q / 2 ^ lastPlace q)

/-- The bits of a sign. -/
def signBits (negative : Bool) : ℕ :=
  if negative then 2 ^ 63 else 0

/-- The double precision number nearest to a number with a sign; none if it is out of
range. -/
def nearest? (negative : Bool) (q : ℚ) : Option Float :=
  if nearestBits q < 2047 * 2 ^ 52 then
    some (Float.ofBits (UInt64.ofNat (signBits negative + nearestBits q)))
  else none

/-- The number that a decimal stands for. -/
def Digits.value (d : Digits) : ℚ :=
  d.digits * 10 ^ d.exponent

namespace Binary

variable {b : Binary} {q : ℚ} {k : ℤ} {d : ℕ}

/-- A number lies in the interval of those that round to a binary fraction. -/
def Admits (b : Binary) (q : ℚ) : Prop :=
  if b.mantissa % 2 = 0 then
    (b.mantissa - b.lowerGap / 4) * 2 ^ b.exponent ≤ q ∧ q ≤ (b.mantissa + 1 / 2) * 2 ^ b.exponent
  else
    (b.mantissa - b.lowerGap / 4) * 2 ^ b.exponent < q ∧ q < (b.mantissa + 1 / 2) * 2 ^ b.exponent

/-- A binary fraction is the magnitude of a double precision number. -/
structure IsDouble (b : Binary) : Prop where
  positive : 0 < b.mantissa
  mantissa_lt : b.mantissa < 2 ^ 53
  le_exponent : -1074 ≤ b.exponent
  exponent_le : b.exponent ≤ 971
  subnormal : b.mantissa < 2 ^ 52 → b.exponent = -1074
  lowerGap_eq : b.lowerGap = if b.mantissa = 2 ^ 52 ∧ -1074 < b.exponent then 1 else 2

/-! ## Rounding -/

theorem halfEven_eq {m : ℕ} (near : |q - m| < 1 / 2 ∨ |q - m| = 1 / 2 ∧ m % 2 = 0) :
    halfEven q = m := by
  have close : |q - m| ≤ 1 / 2 := near.elim le_of_lt fun tie => tie.1.le
  obtain ⟨low, high⟩ := abs_le.mp close
  by_cases above : (m : ℚ) ≤ q
  · have floor : ⌊q⌋₊ = m := (Nat.floor_eq_iff (le_trans m.cast_nonneg above)).mpr
      ⟨above, by linarith⟩
    simp only [halfEven, floor]
    rcases near with near | ⟨tie, even⟩
    · rw [if_pos (lt_of_abs_lt near)]
    · rw [abs_of_nonneg (sub_nonneg.mpr above)] at tie
      rw [tie, if_neg (lt_irrefl _), if_neg (lt_irrefl _), if_pos even]
  · have below := lt_of_not_ge above
    rcases Nat.eq_zero_or_pos m with rfl | positive
    · have negative : q < 0 := by simpa using below
      have floor : ⌊q⌋₊ = 0 := Nat.floor_of_nonpos negative.le
      simp only [halfEven, floor]
      rw [if_pos (by push_cast; linarith)]
    · obtain ⟨n, rfl⟩ := Nat.exists_eq_succ_of_ne_zero positive.ne'
      push_cast at *
      have floor : ⌊q⌋₊ = n := (Nat.floor_eq_iff (by linarith [n.cast_nonneg (α := ℚ)])).mpr
        ⟨by linarith, by linarith⟩
      simp only [halfEven, floor]
      rw [abs_of_neg (by linarith)] at near
      rcases near with near | ⟨tie, even⟩
      · rw [if_neg (by linarith), if_pos (by linarith)]
      · rw [if_neg (by linarith), if_neg (by linarith), if_neg (by omega)]

theorem IsDouble.gap_le (double : b.IsDouble) : (b.lowerGap : ℚ) / 4 ≤ 1 / 2 := by
  rw [double.lowerGap_eq]
  split <;> norm_num

/-- A number in the interval of a mantissa is not far from it. -/
theorem Admits.near (double : b.IsDouble) (admits : b.Admits q) :
    (b.mantissa - 1 / 2) * 2 ^ b.exponent ≤ q ∧ q ≤ (b.mantissa + 1 / 2) * 2 ^ b.exponent := by
  have scale : (0 : ℚ) < 2 ^ b.exponent := by positivity
  have low : ((b.mantissa : ℚ) - 1 / 2) * 2 ^ b.exponent ≤
      (b.mantissa - b.lowerGap / 4) * 2 ^ b.exponent :=
    mul_le_mul_of_nonneg_right (by linarith [double.gap_le]) scale.le
  unfold Admits at admits
  split at admits
  · exact ⟨low.trans admits.1, admits.2⟩
  · exact ⟨low.trans admits.1.le, admits.2.le⟩

theorem Admits.pos (double : b.IsDouble) (admits : b.Admits q) : 0 < q := by
  have scale : (0 : ℚ) < 2 ^ b.exponent := by positivity
  have mantissa : (1 : ℚ) ≤ b.mantissa := by exact_mod_cast double.positive
  have half : 0 < ((b.mantissa : ℚ) - 1 / 2) * 2 ^ b.exponent :=
    mul_pos (by linarith) scale
  exact half.trans_le (admits.near double).1

end Binary

theorem log_eq_of_mem {q : ℚ} {k : ℤ} (low : 2 ^ k ≤ q) (high : q < 2 ^ (k + 1)) :
    Int.log 2 q = k := by
  have positive : 0 < q := lt_of_lt_of_le (by positivity) low
  have above : k ≤ Int.log 2 q :=
    (Int.zpow_le_iff_le_log (by decide) positive).mp (by exact_mod_cast low)
  have below : Int.log 2 q < k + 1 :=
    (Int.lt_zpow_iff_log_lt (by decide) positive).mp (by exact_mod_cast high)
  omega

theorem lastPlace_eq_of_mem {q : ℚ} {k : ℤ} (above : -1074 ≤ k) (low : 2 ^ (k + 52) ≤ q)
    (high : q < 2 ^ (k + 53)) : lastPlace q = k := by
  have log := log_eq_of_mem low (by rwa [add_assoc])
  rw [lastPlace, log]
  omega

theorem lastPlace_eq_of_lt {q : ℚ} (positive : 0 < q) (small : q < 2 ^ (-1021 : ℤ)) :
    lastPlace q = -1074 := by
  have log : Int.log 2 q < -1021 :=
    (Int.lt_zpow_iff_log_lt (by decide) positive).mp (by exact_mod_cast small)
  rw [lastPlace]
  omega

namespace Binary

variable {b : Binary} {q : ℚ}

/-- Numbers in the interval of a mantissa are rounded to it at its own last place. -/
theorem halfEven_of_admits (double : b.IsDouble) (admits : b.Admits q) :
    halfEven (q / 2 ^ b.exponent) = b.mantissa := by
  have scale : (0 : ℚ) < 2 ^ b.exponent := by positivity
  obtain ⟨low, high⟩ := admits.near double
  rw [← le_div_iff₀ scale] at low
  rw [← div_le_iff₀ scale] at high
  have close : |q / 2 ^ b.exponent - b.mantissa| ≤ 1 / 2 :=
    abs_le.mpr ⟨by linarith, by linarith⟩
  apply halfEven_eq
  by_cases even : b.mantissa % 2 = 0
  · exact close.lt_or_eq.imp_right fun tie => ⟨tie, even⟩
  · left
    rw [Admits, if_neg even, ← lt_div_iff₀ scale, ← div_lt_iff₀ scale] at admits
    exact abs_lt.mpr ⟨by linarith [double.gap_le], by linarith⟩

/-- Below a power of two the numbers are closer, and a number in the lower half of the
interval is rounded up to the power. -/
theorem halfEven_of_below (double : b.IsDouble) (admits : b.Admits q)
    (power : b.mantissa = 2 ^ 52) (normal : -1074 < b.exponent)
    (below : q < 2 ^ (b.exponent + 52)) :
    2 ^ (b.exponent + 51) ≤ q ∧ halfEven (q / 2 ^ (b.exponent - 1)) = 2 ^ 53 := by
  have scale : (0 : ℚ) < 2 ^ b.exponent := by positivity
  have gap : b.lowerGap = 1 := by rw [double.lowerGap_eq, if_pos ⟨power, normal⟩]
  have low : ((2 : ℚ) ^ 52 - 1 / 4) * 2 ^ b.exponent ≤ q := by
    rw [Admits, if_pos (by rw [power]; rfl), gap, power] at admits
    exact_mod_cast admits.1
  rw [zpow_add₀ two_ne_zero] at below ⊢
  norm_num at below low ⊢
  refine ⟨by linarith, halfEven_eq ?_⟩
  have half : (2 : ℚ) ^ (b.exponent - 1) = 2 ^ b.exponent / 2 := by
    rw [zpow_sub_one₀ two_ne_zero, div_eq_mul_inv]
  have close : |q / 2 ^ (b.exponent - 1) - (9007199254740992 : ℕ)| ≤ 1 / 2 := by
    rw [half, abs_le, le_sub_iff_add_le, sub_le_iff_le_add, le_div_iff₀ (by linarith),
      div_le_iff₀ (by linarith)]
    constructor <;> norm_num <;> linarith
  exact close.lt_or_eq.imp_right fun tie => ⟨tie, rfl⟩

/-- The bits of a magnitude. -/
def bits (b : Binary) : ℕ :=
  (b.exponent + 1074).toNat * 2 ^ 52 + b.mantissa

/-- A number in the interval of a magnitude is rounded to it. -/
theorem nearestBits_of_admits (double : b.IsDouble) (admits : b.Admits q) :
    nearestBits q = b.bits := by
  have positive := admits.pos double
  have scale : (0 : ℚ) < 2 ^ b.exponent := by positivity
  obtain ⟨low, high⟩ := admits.near double
  -- the last place is that of the magnitude, unless the number is just below a power of two
  have ownPlace (place : lastPlace q = b.exponent) : nearestBits q = b.bits := by
    rw [nearestBits, if_neg positive.ne', place, halfEven_of_admits double admits, bits]
  have carried : (b.mantissa : ℚ) + 1 / 2 < 2 ^ 53 := by
    have bound : (b.mantissa : ℚ) + 1 ≤ 2 ^ 53 := by exact_mod_cast double.mantissa_lt
    linarith
  have small : q < 2 ^ (b.exponent + 53) := by
    rw [zpow_add₀ two_ne_zero, mul_comm]
    exact high.trans_lt (mul_lt_mul_of_pos_right (by exact_mod_cast carried) scale)
  by_cases below : q < 2 ^ (b.exponent + 52)
  · rcases double.le_exponent.eq_or_lt with lowest | normal
    · apply ownPlace
      rw [← lowest] at small ⊢
      exact lastPlace_eq_of_lt positive small
    · have power : b.mantissa = 2 ^ 52 := by
        have full : 2 ^ 52 ≤ b.mantissa := by
          by_contra lacking
          exact normal.ne' (double.subnormal (not_le.mp lacking))
        have least : (b.mantissa : ℚ) - 1 / 2 < 2 ^ 52 := by
          rw [zpow_add₀ two_ne_zero, mul_comm] at below
          exact_mod_cast lt_of_mul_lt_mul_right (low.trans_lt below) scale.le
        have bound : (b.mantissa : ℚ) < (2 ^ 52 + 1 : ℕ) := by
          push_cast
          linarith
        have : b.mantissa < 2 ^ 52 + 1 := by exact_mod_cast bound
        omega
      obtain ⟨above, carry⟩ := halfEven_of_below double admits power normal below
      have place : lastPlace q = b.exponent - 1 := by
        apply lastPlace_eq_of_mem (by omega)
        · rwa [sub_add]
        · rwa [sub_add]
      rw [nearestBits, if_neg positive.ne', place, carry, bits, power]
      omega
  · exact ownPlace (lastPlace_eq_of_mem double.le_exponent (not_lt.mp below) small)

/-! ## Double precision numbers -/

theorem isDouble_subnormal {m : ℕ} (positive : 0 < m) (small : m < 2 ^ 52) :
    IsDouble ⟨m, -1074, 2⟩ where
  positive := positive
  mantissa_lt := small.trans (by decide)
  le_exponent := le_refl _
  exponent_le := by norm_num
  subnormal _ := rfl
  lowerGap_eq := by simp

theorem isDouble_normal {m e : ℕ} (small : m < 2 ^ 52) (positive : 0 < e) (finite : e < 2047) :
    IsDouble ⟨2 ^ 52 + m, e - 1075, if m = 0 ∧ 1 < e then 1 else 2⟩ where
  positive := Nat.add_pos_left (by decide) m
  mantissa_lt := by
    change 2 ^ 52 + m < _
    omega
  le_exponent := by
    change -1074 ≤ (e : ℤ) - 1075
    omega
  exponent_le := by
    change (e : ℤ) - 1075 ≤ 971
    omega
  subnormal := by
    change 2 ^ 52 + m < _ → _
    omega
  lowerGap_eq := by
    change ite _ _ _ = ite (2 ^ 52 + m = _ ∧ -1074 < (e : ℤ) - 1075) _ _
    congr 1
    apply propext
    omega

end Binary

theorem toNat_toBits (x : Float) :
    x.toBits.toNat = signBits (decide (x.toBits.toNat / 9223372036854775808 = 1)) +
      (x.toBits.toNat / 4503599627370496 % 2048 * 4503599627370496 +
        x.toBits.toNat % 4503599627370496) := by
  have bound := x.toBits.toNat_lt
  rw [signBits]
  split <;> rename_i sign <;> simp only [decide_eq_true_eq] at sign <;> omega

/-- The parts of a double precision number give its bits. -/
theorem parts_finite {x : Float} {negative : Bool} {b : Binary}
    (finite : parts x = .finite negative b) :
    b.IsDouble ∧ x.toBits.toNat = signBits negative + b.bits := by
  have whole := toNat_toBits x
  unfold parts at finite
  dsimp only at finite
  have fraction := Nat.mod_lt x.toBits.toNat (y := 4503599627370496) (by decide)
  have exponent := Nat.mod_lt (x.toBits.toNat / 4503599627370496) (y := 2048) (by decide)
  generalize x.toBits.toNat % 4503599627370496 = m at *
  generalize x.toBits.toNat / 4503599627370496 % 2048 = e at *
  split at finite
  · split at finite <;> cases finite
  · split at finite
    · rename_i zero
      split at finite
      · cases finite
      · cases finite
        refine ⟨Binary.isDouble_subnormal (by omega) fraction, whole.trans ?_⟩
        simp [zero, Binary.bits]
    · rename_i finiteExponent normal
      cases finite
      have small : e < 2047 := by omega
      refine ⟨Binary.isDouble_normal fraction (Nat.pos_of_ne_zero normal) small, whole.trans ?_⟩
      rw [Binary.bits, Nat.add_left_cancel_iff]
      change e * _ + m = ((e : ℤ) - 1075 + 1074).toNat * 2 ^ 52 + (4503599627370496 + m)
      omega

theorem parts_zero {x : Float} {negative : Bool} (zero : parts x = .zero negative) :
    x.toBits.toNat = signBits negative := by
  have whole := toNat_toBits x
  unfold parts at zero
  dsimp only at zero
  split at zero
  · split at zero <;> cases zero
  · split at zero
    · split at zero
      · rename_i exponent fraction
        cases zero
        rw [exponent, fraction] at whole
        exact whole
      · cases zero
    · cases zero

theorem ofBits_of_toNat {x : Float} {n : ℕ} (bits : x.toBits.toNat = n) :
    Float.ofBits (UInt64.ofNat n) = x := by
  rw [← bits, UInt64.ofNat_toNat, Float.ofBits_toBits]

/-- A number in the interval of a double precision number is rounded to it. -/
theorem nearest?_of_admits {x : Float} {negative : Bool} {b : Binary} {q : ℚ}
    (finite : parts x = .finite negative b) (admits : b.Admits q) :
    nearest? negative q = some x := by
  obtain ⟨double, bits⟩ := parts_finite finite
  have inRange : b.bits < 2047 * 2 ^ 52 := by
    have := double.mantissa_lt
    have := double.exponent_le
    rw [Binary.bits]
    omega
  rw [nearest?, Binary.nearestBits_of_admits double admits, if_pos inRange, ofBits_of_toNat bits]

theorem nearest?_zero {x : Float} {negative : Bool} (zero : parts x = .zero negative) :
    nearest? negative 0 = some x := by
  rw [nearest?, nearestBits, if_pos rfl, if_pos (by decide), Nat.add_zero,
    ofBits_of_toNat (parts_zero zero)]

end Polyquery.Decimal
