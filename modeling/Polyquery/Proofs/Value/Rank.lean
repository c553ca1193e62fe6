import Mathlib
import Polyquery.Value

/-!
# Floating point numbers in order

The numbers of one format that are not negative are in the order of their bits, read as one whole
number.  With the sign in front this gives every number a rank, and two numbers compare as their
ranks do.  What is packed keeps its rank, unless it is too large for the format and becomes
infinite.
-/

namespace Polyquery.Double

open Float.Model (Format UnpackedFloat)
open Float.Model.UnpackedFloat

variable {sign : Sign} {m m' : ℕ} {e e' : ℤ}

/-! ## Ranks -/

/-- The bits of a positive number as one whole number: the exponent above the digits, of which
the first is not written. -/
def place (m : ℕ) (e : ℤ) : ℤ :=
  (e + 1074) * 2 ^ 52 + m

/-- The bits of infinity. -/
def top : ℤ :=
  2047 * 2 ^ 52

/-- The rank of a number; none for what is not a number. -/
def rank? : UnpackedFloat → Option ℤ
  | .notANumber => none
  | .infinity sign => some (sign.apply top)
  | .zero _ => some 0
  | .finite sign m e _ => some (sign.apply (place m e))

/-- The digits and the exponent of a number: all digits are used unless the exponent is the
least. -/
structure Fits (m : ℕ) (e : ℤ) : Prop where
  positive : 0 < m
  digits : m < 2 ^ 53
  least : -1074 ≤ e
  normal : e = -1074 ∨ 2 ^ 52 ≤ m

theorem Fits.place_pos (fits : Fits m e) : 0 < place m e := by
  obtain ⟨positive, -, least, -⟩ := fits
  unfold place
  omega

theorem Fits.place_lt_top (fits : Fits m e) : place m e < top ↔ e ≤ 971 := by
  obtain ⟨-, digits, least, normal⟩ := fits
  unfold place top
  omega

/-- Exponents come first, then digits. -/
theorem Fits.compare_place (fits : Fits m e) (fits' : Fits m' e') :
    compare (place m e) (place m' e') = (compare e e').then (compare m m') := by
  obtain ⟨-, digits, least, normal⟩ := fits
  obtain ⟨-, digits', least', normal'⟩ := fits'
  unfold place
  rcases lt_trichotomy e e' with below | rfl | above
  · rw [compare_lt_iff_lt.mpr below, Ordering.lt_then, compare_lt_iff_lt]
    omega
  · rw [compare_eq_iff_eq.mpr rfl, Ordering.eq_then]
    rcases lt_trichotomy m m' with less | rfl | more
    · rw [compare_lt_iff_lt.mpr less, compare_lt_iff_lt]
      omega
    · simp
    · rw [compare_gt_iff_gt.mpr more, compare_gt_iff_gt]
      omega
  · rw [compare_gt_iff_gt.mpr above, Ordering.gt_then, compare_gt_iff_gt]
    omega

/-- Digits and exponent can be read off the place. -/
theorem Fits.eq_of_place_eq (fits : Fits m e) (fits' : Fits m' e')
    (same : place m e = place m' e') : m = m' ∧ e = e' := by
  obtain ⟨-, digits, least, normal⟩ := fits
  obtain ⟨-, digits', least', normal'⟩ := fits'
  unfold place at same
  omega

/-! ## Comparing -/

theorem toNat_one_append (digits : BitVec 52) :
    (1#1 ++ digits).toNat = 2 ^ 52 + digits.toNat := by
  rw [BitVec.toNat_append, ← Nat.shiftLeft_add_eq_or_of_lt digits.isLt]
  rfl

/-- What the bits of a number can be unpacked to. -/
def Unpacked : UnpackedFloat → Prop
  | .finite _ m e _ => Fits m e ∧ e ≤ 971
  | _ => True

theorem unpacked_unpack (bits : BitVec Format.binary64.numBits) :
    Unpacked (unpack .binary64 bits) := by
  have fraction : (unpackMantissa bits).toNat < 2 ^ 52 := (unpackMantissa bits).isLt
  have exponent : (unpackExponent bits).toNat < 2 ^ 11 := (unpackExponent bits).isLt
  have bias : ((Format.exponentBias .binary64 : ℕ) : ℤ) = 1023 := rfl
  simp only [unpack]
  split
  · split <;> trivial
  · rename_i bounded
    have below : (unpackExponent bits).toNat ≠ 2047 := by
      intro last
      exact bounded (BitVec.eq_of_toNat_eq last)
    split
    · rename_i zero
      split
      · trivial
      · rename_i some
        have positive : 0 < (unpackMantissa bits).toNat := by
          rw [Nat.pos_iff_ne_zero]
          intro none
          exact some (BitVec.eq_of_toNat_eq none)
        refine ⟨⟨positive, by omega, ?_, .inl ?_⟩, ?_⟩ <;>
          rw [zero, bias] <;> simp
    · rename_i nonzero
      have positive : (unpackExponent bits).toNat ≠ 0 := by
        intro none
        exact nonzero (BitVec.eq_of_toNat_eq none)
      have digits : (1#1 ++ unpackMantissa bits).toNat =
          2 ^ 52 + (unpackMantissa bits).toNat := toNat_one_append _
      refine ⟨⟨?_, ?_, ?_, .inr ?_⟩, ?_⟩ <;> simp only [digits, bias] <;> omega

theorem some_lt {i j : ℤ} (below : i < j) : some Ordering.lt = some (compare i j) := by
  rw [compare_lt_iff_lt.mpr below]

theorem some_gt {i j : ℤ} (above : j < i) : some Ordering.gt = some (compare i j) := by
  rw [compare_gt_iff_gt.mpr above]

theorem compare_neg_neg (i j : ℤ) : compare (-i) (-j) = (compare i j).swap := by
  rw [← Std.OrientedOrd.eq_swap]
  rcases lt_trichotomy i j with below | rfl | above
  · rw [compare_gt_iff_gt.mpr (neg_lt_neg below), compare_gt_iff_gt.mpr below]
  · rw [compare_eq_iff_eq.mpr rfl, compare_eq_iff_eq.mpr rfl]
  · rw [compare_lt_iff_lt.mpr (neg_lt_neg above), compare_lt_iff_lt.mpr above]

theorem Fits.between (fits : Fits m e) (bounded : e ≤ 971) (sign : Sign) :
    -top < sign.apply (place m e) ∧ sign.apply (place m e) < top := by
  have positive := fits.place_pos
  have below := fits.place_lt_top.mpr bounded
  cases sign <;> simp only [Sign.apply] <;> omega

/-- Numbers compare as their ranks. -/
theorem compare_eq {first second : UnpackedFloat} (unpacked : Unpacked first)
    (unpacked' : Unpacked second) :
    first.compare second = (rank? first).bind fun i => (rank? second).map (compare i) := by
  have high : (0 : ℤ) < top := by decide
  cases first with
  | notANumber => cases second <;> rfl
  | infinity sign =>
      cases second with
      | notANumber => cases sign <;> rfl
      | infinity sign' => cases sign <;> cases sign' <;> rfl
      | zero sign' => cases sign <;> rfl
      | finite sign' m' e' _ =>
          obtain ⟨low', high'⟩ := unpacked'.1.between unpacked'.2 sign'
          cases sign with
          | negative => exact some_lt low'
          | positive => exact some_gt high'
  | zero sign =>
      cases second with
      | notANumber => rfl
      | infinity sign' => cases sign' <;> rfl
      | zero sign' => rfl
      | finite sign' m' e' _ =>
          have positive' := unpacked'.1.place_pos
          cases sign' with
          | negative => exact some_gt (neg_neg_of_pos positive')
          | positive => exact some_lt positive'
  | finite sign m e _ =>
      obtain ⟨fits, bounded⟩ := unpacked
      have positive := fits.place_pos
      cases second with
      | notANumber => cases sign <;> rfl
      | infinity sign' =>
          obtain ⟨low, high⟩ := fits.between bounded sign
          cases sign' with
          | negative => cases sign <;> exact some_gt low
          | positive => cases sign <;> exact some_lt high
      | zero sign' =>
          cases sign with
          | negative => exact some_lt (neg_neg_of_pos positive)
          | positive => exact some_gt positive
      | finite sign' m' e' _ =>
          have positive' := unpacked'.1.place_pos
          have places := fits.compare_place unpacked'.1
          cases sign <;> cases sign'
          case negative.negative =>
            change some ((compare e e').then (compare m m')).swap =
              some (compare (-place m e) (-place m' e'))
            rw [compare_neg_neg, places]
          case negative.positive =>
            exact some_lt ((neg_neg_of_pos positive).trans positive')
          case positive.negative =>
            exact some_gt ((neg_neg_of_pos positive').trans positive)
          case positive.positive => exact congrArg some places.symm

/-- The rank of a floating point number; none for what is not a number. -/
def rankOf? (x : Float) : Option ℤ :=
  rank? x.toModel.unpack

/-- Floating point numbers compare as their ranks. -/
theorem compareFloat_eq (x y : Float) :
    Value.compareFloat x y = (rankOf? x).bind fun i => (rankOf? y).map (compare i) := by
  have less (a b : Float) : a < b ↔ a.toModel.unpack.compare b.toModel.unpack = some .lt := by
    change decide (UnpackedFloat.lt a.toModel.unpack b.toModel.unpack = true) = true ↔ _
    simp [UnpackedFloat.lt]
  have same : (x == y) = true ↔ x.toModel.unpack.compare y.toModel.unpack = some .eq := by
    change UnpackedFloat.beq x.toModel.unpack y.toModel.unpack = true ↔ _
    simp [UnpackedFloat.beq]
  have ranked (a b : Float) : a.toModel.unpack.compare b.toModel.unpack =
      (rankOf? a).bind fun i => (rankOf? b).map (compare i) :=
    compare_eq (unpacked_unpack _) (unpacked_unpack _)
  simp only [Value.compareFloat, less, same, ranked]
  cases rankOf? x with
  | none => cases rankOf? y <;> rfl
  | some i =>
      cases rankOf? y with
      | none => rfl
      | some j =>
          simp only [Option.bind_some, Option.map_some, Option.some.injEq, compare_lt_iff_lt,
            compare_eq_iff_eq]
          rcases lt_trichotomy i j with below | rfl | above
          · rw [if_pos below, compare_lt_iff_lt.mpr below]
          · rw [if_neg (lt_irrefl i), if_pos rfl, compare_eq_iff_eq.mpr rfl]
          · rw [if_neg above.not_gt, if_neg above.ne', if_pos above, compare_gt_iff_gt.mpr above]

theorem isNaN_iff {x : Float} : x.isNaN = true ↔ rankOf? x = none := by
  change UnpackedFloat.isNaN x.toModel.unpack = true ↔ rank? x.toModel.unpack = none
  cases x.toModel.unpack <;> simp [UnpackedFloat.isNaN, rank?]

/-! ## Packing -/

theorem sign_packComponents (sign : Sign) (exponent : BitVec 11) (digits : BitVec 52) :
    Sign.ofBitVec (unpackSign (packComponents .binary64 sign exponent digits)) = sign := by
  simp only [unpackSign, packComponents, BitVec.extractLsb]
  rw [BitVec.extractLsb'_append_eq_of_le (by decide),
    BitVec.extractLsb'_append_eq_of_le (by decide)]
  cases sign <;> rfl

/-- Whether all digits are used. -/
theorem Fits.log2_add_one_eq_iff (fits : Fits m e) : m.log2 + 1 = 53 ↔ 2 ^ 52 ≤ m := by
  have nonzero : m ≠ 0 := fits.positive.ne'
  have few : m.log2 < 53 := (Nat.log2_lt nonzero).mpr fits.digits
  rw [← Nat.le_log2 nonzero]
  omega

/-- What the bits of a number with an implicit digit stand for. -/
theorem unpack_normal {n : ℕ} (positive : n ≠ 0) (bounded : n < 2047) (digits : BitVec 52) :
    unpack .binary64 (packComponents .binary64 sign (BitVec.ofNat 11 n) digits) =
      .finite sign (2 ^ 52 + digits.toNat) (n - 1075) (Nat.add_pos_left (by decide) _) := by
  have small : n % 2 ^ 11 = n := Nat.mod_eq_of_lt (by omega)
  have notLast : BitVec.ofNat 11 n ≠ -1#11 := by
    intro last
    have := congrArg BitVec.toNat last
    rw [BitVec.toNat_ofNat, small] at this
    exact bounded.ne this
  have notFirst : BitVec.ofNat 11 n ≠ 0#11 := by
    intro first
    have := congrArg BitVec.toNat first
    rw [BitVec.toNat_ofNat, small] at this
    exact positive this
  simp only [unpack, unpackMantissa_packComponents, unpackExponent_packComponents,
    sign_packComponents, if_neg notLast, if_neg notFirst, BitVec.toNat_ofNat, small,
    toNat_one_append]
  rfl

/-- What the bits of a number with the least exponent stand for. -/
theorem unpack_subnormal {digits : BitVec 52} (positive : 0 < digits.toNat) :
    unpack .binary64 (packComponents .binary64 sign 0#11 digits) =
      .finite sign digits.toNat (-1074) positive := by
  have nonzero : digits ≠ 0#52 := by
    rintro rfl
    exact absurd positive (by decide)
  have notLast : 0#11 ≠ -1#11 := by decide
  simp only [unpack, unpackMantissa_packComponents, unpackExponent_packComponents,
    sign_packComponents, if_neg notLast, if_true, dif_neg nonzero]
  rfl

/-- A number that is not too large is unpacked as it was packed. -/
theorem unpack_pack_finite (fits : Fits m e) (bounded : e ≤ 971) (positive : 0 < m) :
    unpack .binary64 (pack .binary64 (.finite sign m e positive)) = .finite sign m e positive := by
  have bias : ((Format.exponentBias .binary64 : ℕ) : ℤ) = 1023 := rfl
  have all : Format.mantissaBits .binary64 = 53 := rfl
  have least := fits.least
  have exponent : ¬ 2 ^ 11 ≤ (e + 1023 + (52 : ℕ)).toNat + 1 := by omega
  simp only [pack, bias, all, if_neg exponent]
  by_cases normal : 2 ^ 52 ≤ m
  · have digits : 2 ^ 52 + (BitVec.ofNat 52 m).toNat = m := by
      have := fits.digits
      rw [BitVec.toNat_ofNat]
      omega
    rw [if_pos (fits.log2_add_one_eq_iff.mpr normal), unpack_normal (by omega) (by omega)]
    simp only [digits, finite.injEq, true_and]
    omega
  · have subnormal : e = -1074 := fits.normal.resolve_right normal
    have digits : (BitVec.ofNat 52 m).toNat = m := by
      rw [BitVec.toNat_ofNat, Nat.mod_eq_of_lt (by omega)]
    have some : 0 < (BitVec.ofNat 52 m).toNat := by rwa [digits]
    rw [if_neg (mt fits.log2_add_one_eq_iff.mp normal), unpack_subnormal some]
    simp only [digits, subnormal]

/-- A number that is too large becomes infinite. -/
theorem unpack_pack_of_large (large : 971 < e) (positive : 0 < m) :
    unpack .binary64 (pack .binary64 (.finite sign m e positive)) = .infinity sign := by
  have bias : ((Format.exponentBias .binary64 : ℕ) : ℤ) = 1023 := rfl
  have exponent : 2 ^ 11 ≤ (e + 1023 + (52 : ℕ)).toNat + 1 := by omega
  simp only [pack, bias, if_pos exponent, packedInfinity]
  cases sign <;> rfl

/-- Packing keeps the rank up to infinity. -/
theorem rank?_unpack_pack (fits : Fits m e) (positive : 0 < m) :
    rank? (unpack .binary64 (pack .binary64 (.finite sign m e positive))) =
      some (sign.apply (min (place m e) top)) := by
  rcases le_or_gt e 971 with bounded | large
  · rw [unpack_pack_finite fits bounded, min_eq_left (fits.place_lt_top.mpr bounded).le, rank?]
  · have above : top ≤ place m e := not_lt.mp (mt fits.place_lt_top.mp large.not_ge)
    rw [unpack_pack_of_large large, min_eq_right above, rank?]

theorem rankOf?_neg (x : Float) : rankOf? x.neg = (rankOf? x).map fun i => -i := by
  have unpacked : Unpacked x.toModel.unpack := unpacked_unpack _
  change rank? (unpack .binary64 (pack .binary64 x.toModel.unpack.neg)) =
    (rank? x.toModel.unpack).map _
  cases number : x.toModel.unpack with
  | notANumber => rfl
  | infinity sign => cases sign <;> rfl
  | zero sign => cases sign <;> rfl
  | finite sign m e positive =>
      rw [number] at unpacked
      obtain ⟨fits, bounded⟩ := unpacked
      rw [UnpackedFloat.neg, rank?_unpack_pack fits,
        min_eq_left (fits.place_lt_top.mpr bounded).le, rank?, Option.map_some]
      cases sign with
      | negative => exact congrArg some (neg_neg _).symm
      | positive => rfl

end Polyquery.Double
