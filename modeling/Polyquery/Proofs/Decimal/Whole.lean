import Polyquery.Proofs.Json.Lexing
import Polyquery.Value

/-!
# Whole numbers as floating point numbers

A whole number that 64 bits without a sign hold, but not with one, becomes a floating
point number.  Rounding it to 53 binary digits leaves its exponent far below the one
that is kept for infinity, so that the result has digits.
-/

namespace Polyquery

open Float.Model (Format UnpackedFloat)
open Float.Model.UnpackedFloat

namespace Decimal

/-! ## Rounding -/

theorem roundedMantissa_le (extended : ExtendedMantissa) :
    extended.roundedMantissa ≤ extended.mantissa + 1 := by
  obtain ⟨mantissa, _ | _, _ | _⟩ := extended <;>
    simp only [ExtendedMantissa.roundedMantissa, ExtendedMantissa.accuracy,
      Accuracy.roundToNearestEven] <;> omega

/-- Shifting drops bits. -/
theorem mantissa_shiftToTargetExponent_le (spec : Format) (mantissa : ℕ) (exponent : ℤ)
    (accuracy : Accuracy) :
    (shiftToTargetExponent spec mantissa exponent accuracy).1.mantissa ≤ mantissa := by
  have kept (extended : ExtendedMantissa) (n : ℕ) :
      (n.repeat ExtendedMantissa.shiftRightOne extended).mantissa ≤ extended.mantissa := by
    induction n with
    | zero => exact le_rfl
    | succ n ih => exact (Nat.div_le_self _ 2).trans ih
  have start : (ExtendedMantissa.ofMantissaAndAccuracy mantissa accuracy).mantissa = mantissa := by
    rcases accuracy with _ | _ | _ | _ <;> rfl
  exact (kept _ _).trans start.le

theorem exponent_shiftToTargetExponent (spec : Format) (mantissa : ℕ) (exponent : ℤ)
    (accuracy : Accuracy) :
    (shiftToTargetExponent spec mantissa exponent accuracy).2 =
      max exponent (spec.targetExponent (Float.Model.totalExponent mantissa exponent)) := by
  simp only [shiftToTargetExponent, shiftToExponent]
  omega

/-- The exponent stays below a bound that leaves place for all digits. -/
theorem exponent_shiftToTargetExponent_le {mantissa k : ℕ} {exponent bound : ℤ}
    (accuracy : Accuracy) (small : mantissa ≤ 2 ^ k) (low : exponent ≤ bound)
    (fits : k + exponent ≤ bound + 52) (far : -1074 ≤ bound) :
    (shiftToTargetExponent .binary64 mantissa exponent accuracy).2 ≤ bound := by
  have digits : mantissa.log2 ≤ k := by
    rcases Nat.eq_zero_or_pos mantissa with rfl | positive
    · exact Nat.zero_le k
    · have fewer : mantissa < 2 ^ (k + 1) :=
        small.trans_lt (Nat.pow_lt_pow_right (by decide) k.lt_succ_self)
      exact Nat.lt_succ_iff.mp ((Nat.log2_lt positive.ne').mpr fewer)
  rw [exponent_shiftToTargetExponent]
  simp only [Format.targetExponent, Float.Model.totalExponent, Format.minExponent,
    Format.mantissaBits]
  omega

/-- The exponent of a packed number. -/
def packedExponent (number : UnpackedFloat) : ℕ :=
  (unpackExponent (pack .binary64 number)).toNat

theorem packedExponent_finite_lt {sign : Sign} {mantissa : ℕ} {exponent : ℤ}
    {positive : 0 < mantissa} (low : exponent < 900) :
    packedExponent (.finite sign mantissa exponent positive) < 2047 := by
  have biased : (exponent + (Format.exponentBias .binary64 : ℤ) + (52 : ℕ)).toNat < 2000 := by
    simp only [Format.exponentBias]
    omega
  unfold packedExponent pack
  simp only
  generalize (exponent + (Format.exponentBias .binary64 : ℤ) + (52 : ℕ)).toNat = n at biased ⊢
  split_ifs with far
  · norm_num at far
    omega
  · rw [unpackExponent_packComponents, BitVec.toNat_ofNat]
    omega
  · rw [unpackExponent_packComponents]
    decide

/-- A number of less than 117 binary digits, 53 of them behind the point, is not rounded to
infinity. -/
theorem packedExponent_round_lt {mantissa : ℕ} (sign : Sign)
    (small : mantissa < 2 ^ 117) :
    packedExponent (roundWithAccuracy .binary64 sign mantissa (-53) .exact) < 2047 := by
  have first : (shiftToTargetExponent .binary64 mantissa (-53) .exact).2 ≤ 12 :=
    exponent_shiftToTargetExponent_le .exact small.le (by decide) (by decide) (by decide)
  have bits := mantissa_shiftToTargetExponent_le .binary64 mantissa (-53) .exact
  unfold roundWithAccuracy
  simp only
  generalize shiftToTargetExponent .binary64 mantissa (-53) .exact = shifted at first bits ⊢
  have rounded : shifted.1.roundedMantissa ≤ 2 ^ 117 := by
    have := roundedMantissa_le shifted.1
    omega
  have second : (shiftToTargetExponent .binary64 shifted.1.roundedMantissa shifted.2 .exact).2 ≤
      100 := exponent_shiftToTargetExponent_le .exact rounded (by omega) (by omega) (by decide)
  split_ifs with zero
  · cases sign <;> decide
  · exact packedExponent_finite_lt (by omega)

theorem isFinite_of_packedExponent {number : UnpackedFloat}
    (digits : packedExponent number < 2047) : Json.IsFinite ⟨Float.Model.pack number⟩ := by
  have bits : (Float.toBits ⟨Float.Model.pack number⟩).toNat / 4503599627370496 % 2048 =
      packedExponent number := by
    change (pack .binary64 number).toNat / 4503599627370496 % 2048 = _
    simp [packedExponent, unpackExponent, Nat.shiftRight_eq_div_pow]
  rw [Json.IsFinite, parts, bits]
  simp only [digits.ne, if_false]
  split_ifs <;> trivial

/-- Whole numbers that 53 bits do not hold are rounded with 53 digits behind the point. -/
theorem ofNat_eq_of_le {m : ℕ} (large : 2 ^ 53 ≤ m) :
    Float.ofNat m =
      ⟨Float.Model.pack (roundWithAccuracy .binary64 .positive (2 ^ 53 * m) (-53) .exact)⟩ := by
  have whole : Float.ofNat m = ⟨Float.Model.ofScientific m 0⟩ := by
    change Float.ofScientific m false 0 = _
    rw [Float.ofScientific, dif_neg (by omega)]
    rfl
  have some : m ≠ 0 := by omega
  have notTiny : ¬ (0 : ℤ) < -((2 ^ Format.exponentBits .binary64 : ℤ) + m.log2) := by
    norm_num
  have digits : m <<< 53 * 10 ^ 0 = 2 ^ 53 * m := by
    rw [Nat.shiftLeft_eq, pow_zero, mul_one, mul_comm]
  rw [whole, Float.Model.ofScientific, ofScientific, dif_neg some, if_neg (by decide),
    if_neg notTiny, if_pos le_rfl, ← digits]
  rfl

/-- Whole numbers that 64 bits hold round to numbers with digits, unless 53 bits hold them
anyway. -/
theorem isFinite_ofInt {n : ℤ} (low : 2 ^ 53 ≤ n) (high : n < 2 ^ 64) :
    Json.IsFinite (Float.ofInt n) := by
  obtain ⟨m, rfl⟩ := Int.eq_ofNat_of_zero_le (show 0 ≤ n by omega)
  have large : 2 ^ 53 ≤ m := by omega
  have small : 2 ^ 53 * m < 2 ^ 117 := by omega
  change Json.IsFinite (Float.ofNat m)
  rw [ofNat_eq_of_le large]
  exact isFinite_of_packedExponent (packedExponent_round_lt .positive small)

end Decimal

/-- A floating point number among values has digits. -/
def Value.IsFinite : Value → Prop
  | float x => Json.IsFinite x
  | _ => True

/-- The numbers that JSON text can carry become values with digits. -/
theorem Value.isFinite_ofJson {json : Json} (carried : ∀ n, json = .num n → Json.Carried n) :
    (Value.ofJson json).IsFinite := by
  cases json with
  | num n =>
      have held := carried n rfl
      cases n with
      | float x => exact held
      | int n =>
          simp only [Json.Carried, Number.fitsWhole, Bool.and_eq_true, decide_eq_true_eq] at held
          rw [Value.ofJson]
          split_ifs with signed
          · trivial
          · simp only [Number.fitsSigned, Bool.and_eq_true, decide_eq_true_eq, not_and] at signed
            exact Decimal.isFinite_ofInt (by omega) (by omega)
  | null => trivial
  | bool b => trivial
  | str s => trivial
  | arr items => trivial
  | obj fields => trivial

end Polyquery
