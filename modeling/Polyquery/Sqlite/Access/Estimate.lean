/-!
# Estimates

Numbers of rows and costs are only estimated, and kept on a logarithmic scale:
an estimate is ten times the binary logarithm of what it stands for.  Products
are sums of estimates; sums are read off a short table.
-/

namespace Polyquery.Sqlite.Access

/-- Ten times the binary logarithm of a number. -/
abbrev Estimate := Int

namespace Estimate

/-- What the three bits behind the leading one add. -/
def fractions : List Int :=
  [0, 2, 3, 5, 6, 7, 8, 9]

/-- The estimate of a number; zero counts as one. -/
def ofNat (n : Nat) : Estimate :=
  let whole := Nat.log2 n
  if n < 2 then 0
  else 10 * whole + fractions.getD (n * 8 / Nat.pow 2 whole % 8) 0

/-- What a number adds to a larger one, by the distance of the estimates: the
bounds of the distance and the amounts. -/
def increments : List (Int × Int) :=
  [(1, 10), (3, 9), (5, 8), (8, 7), (11, 6), (14, 5), (18, 4), (24, 3), (31, 2), (49, 1)]

/-- The estimate of a sum. -/
def plus (a b : Estimate) : Estimate :=
  let distance : Int := (a - b).natAbs
  max a b + ((increments.find? fun (bound, _) => distance ≤ bound).map Prod.snd).getD 0

/-- The estimate of the logarithm of a number of which an estimate is given. -/
def log (e : Estimate) : Estimate :=
  if e ≤ 10 then 0 else ofNat e.toNat - 33

end Estimate

end Polyquery.Sqlite.Access
