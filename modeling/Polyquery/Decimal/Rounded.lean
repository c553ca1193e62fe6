import Polyquery.Decimal.Shortest

/-!
# Decimals with a number of digits

A binary fraction rounded to the nearest decimal with at most a given number of
digits.  Of two equally near decimals the larger one is taken.
-/

namespace Polyquery.Decimal.Binary

/-- The number of grid points `10 ^ k` nearest to the number. -/
def nearest (b : Binary) (k : Int) : Nat :=
  let g := b.grid k
  (2 * g.value + g.unit) / (2 * g.unit)

/-- Try the grids `10 ^ k`, `10 ^ (k + 1)`, … until the number has at most the
given number of digits. -/
def roundedFrom (b : Binary) (places : Nat) (k : Int) : Nat → Digits
  | 0 => ⟨b.nearest k, k⟩
  | steps + 1 =>
    let d := b.nearest k
    if d < Nat.pow 10 places then ⟨d, k⟩ else roundedFrom b places (k + 1) steps

/-- The number rounded to a number of digits.  The first grid tried is finer
than needed, and five coarser ones follow. -/
def rounded (b : Binary) (places : Nat) : Digits :=
  b.roundedFrom places (b.coarsest - 3 - places) 6

end Polyquery.Decimal.Binary
