import Polyquery.Sqlite.Access.Choice

/-!
# The order in which rows are found

A path is what remains of a candidate once it is chosen: the order in which the
rows of a table come.  Where alternatives are looked up, a row comes with the
first of them that it fulfils.
-/

namespace Polyquery.Sqlite.Access

open Sql (Term)

/-- The order in which rows come. -/
inductive Path where
  | byNumber
  | byKey (key : Key) (backward : Bool)
  | nothing
  /-- Rows that fulfil a condition come first, on a path of their own. -/
  | either (condition : Term Place) (first rest : Path)

namespace Path

/-- The order of two rows by the columns of a key. -/
def keyOrder (a b : StoredRow) : List KeyColumn → Ordering
  | [] => .eq
  | column :: rest =>
    let order := (StoredTable.cell a column.position).order (StoredTable.cell b column.position)
    (if column.descending then order.swap else order).then (keyOrder a b rest)

/-- The rows in the order of a path.  All of them come, unless they fulfil none
of some alternatives. -/
def rows (table : StoredTable) (holds : StoredRow → Term Place → Bool) : Path → List StoredRow
  | byNumber => table.rows
  | byKey key backward =>
    let sorted := table.rows.mergeSort fun a b => keyOrder a b key.columns != .gt
    if backward then sorted.reverse else sorted
  | nothing => []
  | either condition first rest =>
    let found := (first.rows table holds).filter fun row => holds row condition
    found ++ (rest.rows table holds).filter fun row => !found.any fun other => other.id = row.id

/-- The conjuncts that are looked up together with each alternative of one. -/
def companions (table : StoredTable) (facts : List Fact) (choice : Fact) : List Condition :=
  (facts.filter fun fact =>
    fact.isConjunct && fact.id != choice.id && Condition.mentions table fact.condition &&
      (fact.relation.isSome || fact.same.isSome || fact.isChoice)).map Fact.condition

/-- The path on which the rows are found that fulfil all of some conjuncts.
`often` is how often it is gone. -/
def ofConjuncts (table : StoredTable) (demand : Demand) :
    Nat → Estimate → List Condition → Path
  | 0, _, _ => byNumber
  | fuel + 1, often, conjuncts =>
    let facts := facts table 0 conjuncts
    let candidates := Candidate.all table demand (fuel + 1) facts
    match Candidate.choose? table demand facts (min often 48) candidates with
    | none => byNumber
    | some offer =>
      match offer.candidate.choice, offer.candidate.route.bind Route.key with
      | some choice, _ =>
        let companions := companions table facts choice
        let inner : Demand := { demand with sorts := [], limit := none }
        (Condition.alternatives choice.condition).foldr (fun alternative rest =>
          let conjuncts := Condition.conjuncts alternative ++ companions
          match conjunction conjuncts with
          | some condition =>
            either condition.term
              (ofConjuncts table inner fuel (often + offer.rows) conjuncts) rest
          | none => rest) nothing
      | none, some key => byKey key offer.backward
      | none, none => byNumber

/-- The path on which the rows for a condition are found. -/
def ofCondition (table : StoredTable) (demand : Demand) (condition : Option (Term Place)) : Path :=
  let conjuncts := Condition.prepare table condition
  let depth := conjuncts.foldl (fun sum c => sum + Term.size c) 1
  ofConjuncts table demand depth 0 conjuncts

end Path

end Polyquery.Sqlite.Access
