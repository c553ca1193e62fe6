/-!
# Truth values of SQL

A condition over columns that may be null is true, false or unknown.
-/

namespace Polyquery.Sql

/-- A truth value; none is the unknown one. -/
abbrev Truth := Option Bool

/-- Conjunction of truth values. -/
def and3 : Truth → Truth → Truth
  | some false, _ | _, some false => some false
  | some true, some true => some true
  | _, _ => none

/-- Disjunction of truth values. -/
def or3 : Truth → Truth → Truth
  | some true, _ | _, some true => some true
  | some false, some false => some false
  | _, _ => none

/-- Negation of a truth value; the unknown one stays unknown. -/
def not3 : Truth → Truth :=
  Option.map (!·)

end Polyquery.Sql
