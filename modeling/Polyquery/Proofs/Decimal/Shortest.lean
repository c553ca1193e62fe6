import Polyquery.Proofs.Decimal.Nearest

/-!
# Shortest decimals read back

The decimal that is written for a double precision number lies in the interval of the
numbers that round to it.  The search ends on a grid that is finer than the upper half of
the interval, so that it finds a decimal.
-/

namespace Polyquery.Decimal.Binary

variable {b : Binary} {q : ℚ} {k : ℤ} {d : ℕ} {tie : Tie}

/-! ## Points of a grid -/

/-- A power of a whole exponent, split into the powers that a grid is scaled with. -/
theorem pow_toNat_eq (base : ℚ) (nonzero : base ≠ 0) (n : ℤ) :
    base ^ n.toNat = base ^ n * base ^ (-n).toNat := by
  rw [← zpow_natCast, ← zpow_natCast, ← zpow_add₀ nonzero]
  congr 1
  omega

/-- The factor by which the numbers of a grid are scaled. -/
def gridScale (b : Binary) (k : ℤ) : ℚ :=
  2 ^ (2 - b.exponent) * (10 ^ (-k).toNat * 2 ^ (b.exponent - 2).toNat)

theorem gridScale_pos (b : Binary) (k : ℤ) : 0 < b.gridScale k := by
  unfold gridScale
  positivity

theorem unit_grid (b : Binary) (k : ℤ) : ((b.grid k).unit : ℚ) = 10 ^ k * b.gridScale k := by
  have tens := pow_toNat_eq 10 (by norm_num) k
  have twos := pow_toNat_eq 2 (by norm_num) (2 - b.exponent)
  rw [neg_sub] at twos
  change ((10 ^ k.toNat * 2 ^ (2 - b.exponent).toNat : ℕ) : ℚ) = _
  push_cast
  rw [tens, twos, gridScale]
  ring

/-- A number of quarters of a unit of the mantissa, on the scale of a grid. -/
theorem quarters_grid (b : Binary) (k : ℤ) (n : ℚ) :
    n * (10 ^ (-k).toNat * 2 ^ (b.exponent - 2).toNat) =
      n / 4 * 2 ^ b.exponent * b.gridScale k := by
  have cancel : (2 : ℚ) ^ b.exponent * 2 ^ (2 - b.exponent) = 4 := by
    rw [← zpow_add₀ two_ne_zero, add_sub_cancel]
    norm_num
  calc n * (10 ^ (-k).toNat * 2 ^ (b.exponent - 2).toNat)
      = n / 4 * 4 * (10 ^ (-k).toNat * 2 ^ (b.exponent - 2).toNat) := by ring
    _ = n / 4 * 2 ^ b.exponent * b.gridScale k := by
      rw [← cancel, gridScale]
      ring

theorem low_grid (double : b.IsDouble) (k : ℤ) : ((b.grid k).low : ℚ) =
    (b.mantissa - b.lowerGap / 4) * 2 ^ b.exponent * b.gridScale k := by
  have gap : b.lowerGap ≤ 4 * b.mantissa := by
    have := double.positive
    rw [double.lowerGap_eq]
    split <;> omega
  change (((4 * b.mantissa - b.lowerGap) * (10 ^ _ * 2 ^ _) : ℕ) : ℚ) = _
  push_cast [gap]
  rw [quarters_grid, sub_div, mul_div_cancel_left₀ _ (by norm_num)]

theorem value_grid (b : Binary) (k : ℤ) : ((b.grid k).value : ℚ) =
    b.mantissa * 2 ^ b.exponent * b.gridScale k := by
  change ((4 * b.mantissa * (10 ^ _ * 2 ^ _) : ℕ) : ℚ) = _
  push_cast
  rw [quarters_grid, mul_div_cancel_left₀ _ (by norm_num)]

theorem high_grid (b : Binary) (k : ℤ) : ((b.grid k).high : ℚ) =
    (b.mantissa + 1 / 2) * 2 ^ b.exponent * b.gridScale k := by
  change (((4 * b.mantissa + 2) * (10 ^ _ * 2 ^ _) : ℕ) : ℚ) = _
  push_cast
  rw [quarters_grid, add_div, mul_div_cancel_left₀ _ (by norm_num)]
  norm_num

/-- The points of a grid in the interval of a magnitude are the decimals that round to
it. -/
theorem admits_grid_iff (double : b.IsDouble) :
    (b.grid k).admits d = true ↔ 0 < d ∧ b.Admits (d * 10 ^ k) := by
  have scale := b.gridScale_pos k
  have closed : (b.grid k).closed = (b.mantissa % 2 == 0) := rfl
  have point : ((d * (b.grid k).unit : ℕ) : ℚ) = d * 10 ^ k * b.gridScale k := by
    push_cast
    rw [unit_grid, mul_assoc]
  rw [Grid.admits, Admits, closed]
  simp only [beq_iff_eq, Bool.and_eq_true, decide_eq_true_eq]
  apply and_congr_right'
  split <;> simp only [Bool.and_eq_true, decide_eq_true_eq]
  · rw [← Nat.cast_le (α := ℚ), ← Nat.cast_le (α := ℚ), point, low_grid double, high_grid,
      mul_le_mul_iff_of_pos_right scale, mul_le_mul_iff_of_pos_right scale]
  · rw [← Nat.cast_lt (α := ℚ), ← Nat.cast_lt (α := ℚ), point, low_grid double, high_grid,
      mul_lt_mul_iff_of_pos_right scale, mul_lt_mul_iff_of_pos_right scale]

/-! ## The search -/

theorem admits_of_nearest? {g : Grid} (found : g.nearest? tie = some d) : g.admits d = true := by
  unfold Grid.nearest? at found
  dsimp only at found
  split at found
  · cases found
  · cases found
    assumption
  · cases found
    assumption
  · rename_i below above
    split at found
    · cases found
      exact below
    · split at found
      · cases found
        exact above
      · split at found
        · cases found
          exact above
        · split at found <;> cases found
          · exact below
          · exact above

theorem exists_nearest? {g : Grid} (above : g.admits (g.value / g.unit + 1) = true) :
    ∃ d, g.nearest? tie = some d := by
  unfold Grid.nearest?
  dsimp only
  rw [above]
  split
  · contradiction
  · contradiction
  · exact ⟨_, rfl⟩
  · split
    · exact ⟨_, rfl⟩
    · split
      · exact ⟨_, rfl⟩
      · split
        · exact ⟨_, rfl⟩
        · split <;> exact ⟨_, rfl⟩

/-- A search that reaches a grid with a point in the interval finds a point. -/
theorem admits_search {steps : ℕ} (found : ∃ d, (b.grid (k - steps)).nearest? tie = some d) :
    (b.grid (b.search tie k (steps + 1)).exponent).admits (b.search tie k (steps + 1)).digits =
      true := by
  induction steps generalizing k with
  | zero =>
      obtain ⟨d, found⟩ := found
      rw [Nat.cast_zero, sub_zero] at found
      rw [search, found]
      exact admits_of_nearest? found
  | succ steps ih =>
      rw [search]
      cases here : (b.grid k).nearest? tie with
      | some d => exact admits_of_nearest? here
      | none =>
          apply ih
          rwa [sub_sub, add_comm 1, ← Nat.cast_succ]

/-- If powers with exponents in a fixed proportion compare, so do the powers. -/
theorem ten_zpow_lt {n : ℤ} {p r : ℕ}
    (compare : ((10 : ℚ) ^ p) ^ k ≤ (2 ^ r) ^ k) (less : r * k < p * n) : (10 : ℚ) ^ k < 2 ^ n := by
  apply lt_of_pow_lt_pow_left₀ p (by positivity)
  calc ((10 : ℚ) ^ k) ^ p = (10 ^ p) ^ k := by
        rw [← zpow_natCast, ← zpow_natCast, ← zpow_mul, ← zpow_mul, mul_comm]
    _ ≤ (2 ^ r) ^ k := compare
    _ = 2 ^ (r * k) := by rw [← zpow_natCast, ← zpow_mul]
    _ < 2 ^ (p * n) := zpow_lt_zpow_right₀ (by norm_num) less
    _ = (2 ^ n) ^ p := by rw [← zpow_natCast, ← zpow_mul, mul_comm]

theorem log2_mantissa_le (double : b.IsDouble) : Nat.log2 b.mantissa ≤ 52 := by
  have := (Nat.log2_lt double.positive.ne').mpr double.mantissa_lt
  omega

/-- The last grid of the search is finer than the upper half of the interval. -/
theorem last_grid_lt (double : b.IsDouble) :
    (10 : ℚ) ^ (b.coarsest - 19) < 2 ^ (b.exponent - 1) := by
  have log := log2_mantissa_le double
  have least := double.le_exponent
  have most := double.exponent_le
  have bound : b.coarsest - 19 = ((Nat.log2 b.mantissa + b.exponent) * 30103) / 100000 - 17 := by
    rw [coarsest]
    ring
  -- `196 / 59` is above the binary logarithm of ten, and `93 / 28` below
  rcases Int.le_total 0 (b.coarsest - 19) with positive | negative
  · refine @ten_zpow_lt _ _ 59 196 ?_ (by omega)
    exact zpow_le_zpow_left₀ positive (by norm_num) (by norm_num)
  · refine @ten_zpow_lt _ _ 28 93 ?_ (by omega)
    obtain ⟨steps, isNeg⟩ := Int.exists_eq_neg_ofNat negative
    rw [isNeg, zpow_neg, zpow_neg]
    apply inv_anti₀ (by positivity)
    exact zpow_le_zpow_left₀ (Int.natCast_nonneg steps) (by norm_num) (by norm_num)

/-- The next point above the number on the last grid lies in the interval. -/
theorem admits_last_grid (double : b.IsDouble) :
    (b.grid (b.coarsest - 19)).admits
      ((b.grid (b.coarsest - 19)).value / (b.grid (b.coarsest - 19)).unit + 1) = true := by
  have fine := last_grid_lt double
  generalize b.coarsest - 19 = k at *
  have scale := b.gridScale_pos k
  have unit : 0 < (b.grid k).unit := by
    have positive : (0 : ℚ) < (b.grid k).unit := by
      rw [unit_grid]
      positivity
    exact_mod_cast positive
  have above := Nat.lt_mul_div_succ (b.grid k).value unit
  have step : (b.grid k).unit * ((b.grid k).value / (b.grid k).unit + 1) ≤
      (b.grid k).value + (b.grid k).unit := by
    rw [Nat.mul_add, Nat.mul_one]
    exact Nat.add_le_add_right (Nat.mul_div_le _ _) _
  generalize (b.grid k).value / (b.grid k).unit + 1 = point at *
  have low : (b.mantissa : ℚ) * 2 ^ b.exponent < point * 10 ^ k := by
    have scaled : ((b.grid k).value : ℚ) < (b.grid k).unit * point := by exact_mod_cast above
    rw [value_grid, unit_grid, mul_right_comm ((10 : ℚ) ^ k), mul_comm ((10 : ℚ) ^ k) point]
      at scaled
    exact lt_of_mul_lt_mul_right scaled scale.le
  have high : (point * 10 ^ k : ℚ) ≤ b.mantissa * 2 ^ b.exponent + 10 ^ k := by
    have scaled : ((b.grid k).unit : ℚ) * point ≤ (b.grid k).value + (b.grid k).unit := by
      exact_mod_cast step
    rw [value_grid, unit_grid, mul_right_comm ((10 : ℚ) ^ k), mul_comm ((10 : ℚ) ^ k) point,
      ← add_mul] at scaled
    exact le_of_mul_le_mul_right scaled scale
  have binary : (0 : ℚ) < 2 ^ b.exponent := by positivity
  have lowEnd : ((b.mantissa : ℚ) - b.lowerGap / 4) * 2 ^ b.exponent < point * 10 ^ k := by
    refine lt_of_le_of_lt (mul_le_mul_of_nonneg_right ?_ binary.le) low
    exact sub_le_self _ (by positivity)
  have highEnd : (point * 10 ^ k : ℚ) < (b.mantissa + 1 / 2) * 2 ^ b.exponent := by
    rw [zpow_sub_one₀ two_ne_zero] at fine
    linarith
  refine (admits_grid_iff double).mpr ⟨Nat.pos_of_ne_zero ?_, ?_⟩
  · rintro rfl
    exact Nat.not_lt_zero _ above
  · rw [Admits]
    split
    · exact ⟨lowEnd.le, highEnd.le⟩
    · exact ⟨lowEnd, highEnd⟩

/-- The shortest decimal of a magnitude rounds to it. -/
theorem admits_shortest (double : b.IsDouble) (tie : Tie) :
    0 < (b.shortest tie).digits ∧ b.Admits (b.shortest tie).value := by
  have found := @exists_nearest? tie (b.grid (b.coarsest - 19)) (admits_last_grid double)
  exact (admits_grid_iff double).mp (admits_search found)

end Polyquery.Decimal.Binary
