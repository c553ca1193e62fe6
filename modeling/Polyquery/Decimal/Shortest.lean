/-!
# Shortest decimals of binary fractions

A finite binary number is `mantissa * 2 ^ exponent`.  Every real number close
enough to it rounds to it; these reals form an interval that reaches half way
to each neighbour.  The shortest decimal of the number is the decimal with the
fewest digits inside that interval, and of several such decimals the one
nearest to the number.

Everything here is exact arithmetic on `Nat`: both a decimal `d * 10 ^ k` and
the ends of the interval are compared after multiplication by a common scale.
-/

namespace Polyquery.Decimal

/-- A positive binary fraction `mantissa * 2 ^ exponent`.  `lowerGap` counts the
quarters of a unit of `mantissa` below the number that still round to it. -/
structure Binary where
  mantissa : Nat
  exponent : Int
  lowerGap : Nat
deriving Repr, DecidableEq

/-- A decimal `digits * 10 ^ exponent`. -/
structure Digits where
  digits : Nat
  exponent : Int
deriving Repr, DecidableEq

/-- What is written when two decimals of the same length are equally near. -/
inductive Tie where
  | up
  | even
deriving Repr, DecidableEq

namespace Binary

/-- The interval of reals that round to a number, on the scale on which
`unit` is one step of the decimal grid `10 ^ k`. -/
structure Grid where
  unit : Nat
  low : Nat
  value : Nat
  high : Nat
  closed : Bool
deriving Repr, DecidableEq

/-- The number and its rounding interval against the grid of multiples of
`10 ^ k`.  The ends belong to the interval exactly for an even mantissa. -/
def grid (b : Binary) (k : Int) : Grid :=
  let down := Nat.pow 10 (-k).toNat * Nat.pow 2 (b.exponent - 2).toNat
  { unit := Nat.pow 10 k.toNat * Nat.pow 2 (2 - b.exponent).toNat
    low := (4 * b.mantissa - b.lowerGap) * down
    value := 4 * b.mantissa * down
    high := (4 * b.mantissa + 2) * down
    closed := b.mantissa % 2 == 0 }

/-- Whether the grid point `d` lies in the rounding interval. -/
def Grid.admits (g : Grid) (d : Nat) : Bool :=
  let point := d * g.unit
  0 < d && if g.closed then g.low ≤ point && point ≤ g.high else g.low < point && point < g.high

/-- The grid point in the interval that is nearest to the number, if any is in
it: only the two neighbours of the number have to be looked at. -/
def Grid.nearest? (g : Grid) (tie : Tie) : Option Nat :=
  let below := g.value / g.unit
  let above := below + 1
  match g.admits below, g.admits above with
  | false, false => none
  | true, false => some below
  | false, true => some above
  | true, true =>
    let fromBelow := g.value - below * g.unit
    let fromAbove := above * g.unit - g.value
    if fromBelow < fromAbove then some below
    else if fromAbove < fromBelow then some above
    else match tie with
      | .up => some above
      | .even => if below % 2 == 0 then some below else some above

/-- Try the grids `10 ^ k`, `10 ^ (k - 1)`, … until one has a point in the
rounding interval. -/
def search (b : Binary) (tie : Tie) (k : Int) : Nat → Digits
  | 0 => ⟨0, k⟩
  | steps + 1 =>
    match (b.grid k).nearest? tie with
    | some d => ⟨d, k⟩
    | none => search b tie (k - 1) steps

/-- A power of ten that is certainly coarser than the number. -/
def coarsest (b : Binary) : Int :=
  (((Nat.log2 b.mantissa : Int) + b.exponent) * 30103) / 100000 + 2

/-- The shortest decimal that rounds to the number.  Twenty grids reach past
seventeen digits, and on the grid of seventeen digits a point always exists. -/
def shortest (b : Binary) (tie : Tie) : Digits :=
  search b tie b.coarsest 20

end Binary

/-- The parts of a double precision number. -/
inductive Parts where
  | nan
  | infinite (negative : Bool)
  | zero (negative : Bool)
  | finite (negative : Bool) (magnitude : Binary)
deriving Repr, DecidableEq

/-- Take a double precision number apart into sign, mantissa and exponent.  The
lowest 52 bits are the fraction, the next eleven the exponent and the highest
the sign. -/
def parts (x : Float) : Parts :=
  let bits := x.toBits.toNat
  let negative := decide (bits / 9223372036854775808 = 1)
  let biased : Nat := bits / 4503599627370496 % 2048
  let fraction : Nat := bits % 4503599627370496
  if biased = 2047 then
    if fraction = 0 then .infinite negative else .nan
  else if biased = 0 then
    if fraction = 0 then .zero negative
    else .finite negative ⟨fraction, -1074, 2⟩
  else
    let lowerGap := if fraction = 0 ∧ 1 < biased then 1 else 2
    .finite negative ⟨4503599627370496 + fraction, (biased : Int) - 1075, lowerGap⟩

end Polyquery.Decimal
