import Polyquery.Sqlite.Name

/-!
# Conditions before rows are looked at

A condition is cut into its conjuncts.  Where a conjunct says that a column
equals something that does not depend on the row, the value of the column is
known in all other conjuncts.
-/

namespace Polyquery.Sqlite.Access

open Sql (Term Connector)

/-- What a constraint can be about: the number of a row or another column. -/
inductive Spot where
  | number
  | column (position : Nat)
deriving DecidableEq

/-- A name in a condition. -/
structure Mention where
  place : Place
  /-- The value follows from another conjunct. -/
  known : Bool

/-- A condition, or a part of it. -/
abbrev Condition := Term Mention

/-- The spot that a place in a table is. -/
def spotOf? (table : StoredTable) : Place → Option Spot
  | .column position _ =>
    some (if table.numbering = some position then .number else .column position)
  | .number => some .number
  | .text _ => none

/-- A condition about which nothing is known yet. -/
def Condition.ofTerm (t : Term Place) : Condition :=
  t.map fun place => ⟨place, false⟩

/-- The condition as it is evaluated. -/
def Condition.term (c : Condition) : Term Place :=
  c.map Mention.place

/-- All conditions at once; none if there are none. -/
def conjunction : List Condition → Option Condition
  | [] => none
  | first :: rest => some (rest.foldl (Term.join .and) first)

namespace Condition

/-- Whether a name depends on the row. -/
def depends (table : StoredTable) (mention : Mention) : Bool :=
  !mention.known && (spotOf? table mention.place).isSome

/-- Whether a term depends on the row. -/
def mentions (table : StoredTable) (c : Condition) : Bool :=
  c.names.any (depends table)

/-- The spots that occur in a term. -/
def spots (table : StoredTable) (c : Condition) : List Spot :=
  c.names.filterMap fun mention => spotOf? table mention.place

/-- The spot that a term consists of. -/
def spot? (table : StoredTable) : Condition → Option Spot
  | .name mention => spotOf? table mention.place
  | _ => none

/-- The spot that a term consists of, if it depends on the row. -/
def openSpot? (table : StoredTable) : Condition → Option Spot
  | .name mention => if mention.known then none else spotOf? table mention.place
  | _ => none

/-- The storage class that a term prefers. -/
def preference? (c : Condition) : Option Affinity :=
  affinity? c.term

/-- Whether a spot is never null. -/
def neverNull (table : StoredTable) : Spot → Bool
  | .number => true
  | .column position => (table.columns[position]?.map Column.required).getD false

/-- Whether a term is never null as far as its outermost part shows. -/
def isNeverNull (table : StoredTable) : Condition → Bool
  | .name mention => (spotOf? table mention.place).any (neverNull table)
  | .value v => !v.isNull
  | _ => false

/-- Replace the questions whether something is null that never is. -/
def withoutNullChecks (table : StoredTable) : Condition → Condition
  | .join .is left (.value .null) =>
    let left := withoutNullChecks table left
    if isNeverNull table left then .value (.int 0) else .join .is left (.value .null)
  | .join .isNot left (.value .null) =>
    let left := withoutNullChecks table left
    if isNeverNull table left then .value (.int 1) else .join .isNot left (.value .null)
  | .join connector left right =>
    .join connector (withoutNullChecks table left) (withoutNullChecks table right)
  | .not operand => .not (withoutNullChecks table operand)
  | other => other

/-- The spot whose value an equality gives. -/
def given? (table : StoredTable) : Condition → Option Spot
  | .join .eq left right =>
    let constant (c : Condition) : Bool := !mentions table c && (preference? c).isNone
    let ofRight := if constant left then openSpot? table right else none
    let ofLeft := if constant right then openSpot? table left else none
    ofRight <|> ofLeft
  | _ => none

/-- Whether a connector compares its sides, so that they are converted. -/
def converts : Connector → Bool
  | .eq | .lt | .le | .gt | .ge => true
  | _ => false

/-- Mark the names of some spots as known.  A column without a preference takes
over the value only where it is compared, and not as the right side of a text. -/
def markKnown (table : StoredTable) (given : List Spot) : Condition → Condition
  | .name mention =>
    let found := (spotOf? table mention.place).any fun spot => given.contains spot
    let plain := affinity? (.name mention.place) = some .blob
    .name { mention with known := mention.known || (found && !plain) }
  | .not operand => .not (markKnown table given operand)
  | .join connector left right =>
    let compared (c : Condition) (allowed : Bool) : Condition :=
      match c with
      | .name mention =>
        let found := (spotOf? table mention.place).any fun spot => given.contains spot
        .name { mention with known := mention.known || (found && allowed) }
      | other => other
    let onLeft := markKnown table given left
    let onRight := markKnown table given right
    if converts connector then
      .join connector (compared onLeft true) (compared onRight (preference? left ≠ some .text))
    else .join connector onLeft onRight
  | other => other

/-- The positions of the conjuncts that give the value of a spot: of several for
one spot, the last. -/
def givers (table : StoredTable) (conjuncts : List Condition) : List (Spot × Nat) :=
  conjuncts.zipIdx.foldr (fun (c, i) found =>
    match given? table c with
    | some spot => if found.any (·.1 = spot) then found else found ++ [(spot, i)]
    | none => found) []

/-- Carry known values into the other conjuncts once. -/
def spreadOnce (table : StoredTable) (conjuncts : List Condition) : List Condition :=
  let givers := givers table conjuncts
  conjuncts.zipIdx.map fun (c, i) =>
    if givers.any (·.2 = i) then c else markKnown table (givers.map Prod.fst) c

/-- Carry known values into the other conjuncts. -/
def spread (table : StoredTable) (conjuncts : List Condition) : List Condition :=
  conjuncts.foldl (fun conjuncts _ => spreadOnce table conjuncts) conjuncts

/-- The conjuncts of a condition. -/
def conjuncts (c : Condition) : List Condition :=
  Term.parts .and c

/-- The alternatives of a condition. -/
def alternatives (c : Condition) : List Condition :=
  Term.parts .or c

/-- The conjuncts of the condition of a selection. -/
def prepare (table : StoredTable) (condition : Option (Term Place)) : List Condition :=
  match condition with
  | some t => spread table (conjuncts (withoutNullChecks table (ofTerm t)))
  | none => []

end Condition

end Polyquery.Sqlite.Access
