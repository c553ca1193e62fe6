import Polyquery.Sqlite.Access.Condition

/-!
# Facts about single columns

What the conjuncts of a condition say about the columns of a table, one at a
time: the facts by which rows can be looked up in a key.  A conjunct is a fact
itself, and further facts are derived from it.
-/

namespace Polyquery.Sqlite.Access

open Sql (Connector)
open Condition

/-- What a fact says about the value of a spot. -/
inductive Relation where
  | equal
  | below
  | above
  | null
  /-- The value is not null. -/
  | present
  /-- The value is one of so many. -/
  | oneOf (count : Nat)
deriving DecidableEq

namespace Relation

/-- The relation that a connector states about its left side. -/
def ofConnector? : Connector → Option Relation
  | .eq => some equal
  | .lt | .le => some below
  | .gt | .ge => some above
  | _ => none

/-- The relation of the right side to the left one. -/
def swap : Relation → Relation
  | below => above
  | above => below
  | other => other

/-- Whether the relation names several values. -/
def isOneOf : Relation → Bool
  | oneOf _ => true
  | _ => false

/-- Whether the relation leaves single values. -/
def isPoint : Relation → Bool
  | equal | null | oneOf _ => true
  | _ => false

end Relation

/-- A fact. -/
structure Fact where
  /-- The nesting of the alternatives in which the fact stands, and its number there. -/
  id : Nat × Nat
  /-- The conjunct from which the fact comes. -/
  source : Nat × Nat
  condition : Condition
  /-- What the fact is about, if it is about a single spot. -/
  spot : Option Spot
  relation : Option Relation
  /-- Another spot that has the same values. -/
  same : Option Spot
  /-- The spot with which the one of the fact is compared. -/
  other : Option Spot
  /-- The value of the spot does not depend on the row. -/
  free : Bool
  /-- The storage class for which the sides are converted. -/
  affinity : Option Affinity
  /-- The spot equals a number that is often found: -1, 0 or 1. -/
  common : Bool

namespace Fact

/-- Whether the fact is a conjunct and not derived from one. -/
def isConjunct (fact : Fact) : Bool :=
  fact.id = fact.source

/-- Whether the conjunct has alternatives. -/
def isChoice (fact : Fact) : Bool :=
  match fact.condition with
  | .join .or _ _ => fact.isConjunct
  | _ => false

/-- A conjunct that says nothing about a single spot. -/
def silent (id : Nat × Nat) (condition : Condition) : Fact :=
  ⟨id, id, condition, none, none, none, none, true, none, false⟩

/-- The storage class for which two sides are converted before they are
compared. -/
def comparedAs : Option Affinity → Option Affinity → Option Affinity
  | some a, some b => some (if a.isNumeric || b.isNumeric then .numeric else .blob)
  | some a, none | none, some a => some a
  | none, none => none

/-- Whether two columns hold the same values once they are equal. -/
def alike : Option Affinity → Option Affinity → Bool
  | some a, some b => a = b || (a.isNumeric && b.isNumeric)
  | _, _ => false

/-- Whether a term is a number that is often found. -/
def isCommon : Condition → Bool
  | .value (.int n) => -1 ≤ n && n ≤ 1
  | _ => false

/-- The fact that a conjunct is. -/
def ofCondition (table : StoredTable) (id : Nat × Nat) (c : Condition) : Fact :=
  match c with
  | .join .is left (.value .null) =>
    { silent id c with spot := spot? table left, relation := (spot? table left).map fun _ => .null }
  | .join connector left right =>
    match Relation.ofConnector? connector with
    | none => silent id c
    | some relation =>
      let within := (mentions table left && mentions table right)
      let affinity := comparedAs (preference? left) (preference? right)
      match spot? table left, openSpot? table right with
      | some spot, target =>
        { silent id c with
          spot := some spot
          relation := if within then none else some relation
          same :=
            if relation = .equal && alike (preference? left) (preference? right) then target
            else none
          other := spot? table right
          free := !mentions table right
          affinity := affinity
          common := isCommon right }
      | none, some spot =>
        { silent id c with
          spot := some spot
          relation := if within then none else some relation.swap
          free := !mentions table left
          affinity := affinity
          common := isCommon left }
      | none, none => silent id c
  | _ => silent id c

/-- The alternatives as one fact, if each of them equates the same spot. -/
def ofAlternatives? (table : StoredTable) (c : Condition) : Option Fact := do
  let facts := (alternatives c).map (ofCondition table (0, 0))
  let spot ← (← facts.head?).spot
  let agree (left right : Condition) : Bool :=
    match preference? left, preference? right with
    | some a, some b => a = b
    | _, _ => true
  let fits (fact : Fact) : Bool :=
    match fact.condition with
    | .join _ left right =>
      fact.relation = some .equal && fact.spot = some spot && fact.same.isNone && agree left right
    | _ => false
  if facts.all fits then
    some { silent (0, 0) c with
      spot := some spot
      relation := some (.oneOf facts.length)
      free := facts.all Fact.free
      affinity := (← facts.head?).affinity }
  else none

/-- The facts that follow from a conjunct. -/
def derived (table : StoredTable) (fact : Fact) : List Fact :=
  let made : List Fact :=
    match fact.condition with
    | .join .or _ _ => (ofAlternatives? table fact.condition).toList
    | .join .isNot left (.value .null) =>
      match spot? table left with
      | some (Spot.column position) =>
        [{ fact with spot := some (Spot.column position), relation := some .present }]
      | _ => []
    | .join connector left right =>
      match spot? table left, openSpot? table right, Relation.ofConnector? connector with
      | some spot, some target, some relation =>
        let within := mentions table left
        [{ fact with
          spot := some target
          relation := if within then none else some relation.swap
          same := fact.same.bind fun _ => openSpot? table left
          other := some spot
          free := !within
          common := false }]
      | _, _, _ => []
    | _ => []
  made.map fun other => { other with source := fact.id }

end Fact

/-- All facts of some conjuncts.  Those that are derived come after the conjuncts,
from the last conjunct to the first. -/
def facts (table : StoredTable) (depth : Nat) (conjuncts : List Condition) : List Fact :=
  let own := conjuncts.zipIdx.map fun (c, i) => Fact.ofCondition table (depth, i) c
  let derived := own.reverse.flatMap (Fact.derived table)
  own ++ derived.zipIdx.map fun (fact, i) => { fact with id := (depth, conjuncts.length + i) }

/-- The facts of an alternative, each group of which has to find rows for the
alternatives to be looked up one by one. -/
def alternativeFacts (table : StoredTable) (depth : Nat) (c : Condition) : List (List Fact) :=
  (facts table depth [c]).map fun fact =>
    if fact.relation.isSome && !fact.isChoice then [fact]
    else facts table depth (Condition.conjuncts c)

/-- Whether each alternative is about some spot. -/
def isIndexable (table : StoredTable) (choices : List Condition) : Bool :=
  choices.all fun c =>
    (alternativeFacts table 0 c).all fun group => group.any fun fact => fact.spot.isSome

/-- The spots that have the same values as a given one, itself first. -/
def sameSpots (facts : List Fact) : Nat → List Spot → List Spot
  | 0, spots => spots
  | most + 1, spots =>
    let next := spots.flatMap fun spot =>
      facts.filterMap fun fact => if fact.spot = some spot then fact.same else none
    match next.find? fun spot => !spots.contains spot with
    | some spot => sameSpots facts most (spots ++ [spot])
    | none => spots

/-- Whether a fact can be used for a column that prefers a storage class. -/
def Fact.suits (fact : Fact) (affinity : Affinity) : Bool :=
  match fact.affinity with
  | some .text => affinity = .text
  | some .blob | none => true
  | some _ => affinity.isNumeric

/-- The facts about a spot, or about one that has the same values.  `affinity` is
what a column of a key prefers. -/
def factsAbout (facts : List Fact) (spot : Spot) (affinity : Option Affinity) : List Fact :=
  (sameSpots facts 10 [spot]).flatMap fun place =>
    facts.filter fun fact =>
      fact.spot = some place && fact.relation.isSome && fact.free &&
        (fact.relation = some .null || (affinity.all fun a => fact.suits a)) &&
        !(fact.relation = some .equal && fact.other = some spot)

end Polyquery.Sqlite.Access
