/-!
# Sets of characters

A property of characters is a list of ranges of code points.
-/

namespace Polyquery.Text

/-- A set of characters as a list of ranges of code points, both ends included. -/
abbrev Ranges := List (Nat × Nat)

/-- Whether a character lies in one of the ranges. -/
def Ranges.contains (ranges : Ranges) (c : Char) : Bool :=
  ranges.any fun range => range.1 ≤ c.toNat && c.toNat ≤ range.2

end Polyquery.Text
