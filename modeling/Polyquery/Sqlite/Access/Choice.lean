import Polyquery.Sqlite.Access.Candidate

/-!
# The choice among candidates

Without a wanted order the cheapest candidate is taken, and among equally cheap
ones the one with fewer rows.  With a wanted order, each candidate that does not
bring it along pays for sorting in addition.
-/

namespace Polyquery.Sqlite.Access

namespace Candidate

/-! ### The order that a candidate brings along -/

/-- How far a wanted order is met. -/
structure Progress where
  /-- Which of the wanted sorts are met. -/
  met : List Bool
  /-- Whether the route is gone backwards, once this is settled. -/
  backward : Option Bool
  /-- No two rows agree in all parts so far. -/
  distinct : Bool
  /-- The number of the row is among the sorts that are met. -/
  numbered : Bool

/-- Compare the parts of a route, from the `i`-th on, with the wanted sorts.
`apart` says whether the rows for one value of several are compared only among
themselves. -/
def advance (table : StoredTable) (c : Candidate) (apart : Bool) (length : Nat)
    (sorts : List (Option Spot × Bool)) : List (Spot × Bool) → Nat → Progress → Progress
  | [], _, p => p
  | (spot, descending) :: rest, i, p =>
    let onwards := advance table c apart length sorts rest (i + 1)
    let stopped : Progress := { p with distinct := p.distinct && i ≠ 0 && length ≤ i }
    let relation := if i < c.points then (c.used[i]?).bind Fact.relation else none
    if relation = some .equal || (apart && relation.any Relation.isOneOf) then onwards p
    else if relation = some .null then onwards { p with distinct := false }
    else
      let mayRepeat := c.points ≤ i && !Condition.neverNull table spot
      let unmet := p.met.findIdx (!·)
      let backward := sorts[unmet]?.bind fun (wanted, down) =>
        if wanted = some spot then some (descending != down) else none
      match backward with
      | some b =>
        if p.backward.all (· = b) then
          onwards
            { met := p.met.set unmet true
              backward := some b
              distinct := p.distinct && !mayRepeat
              numbered := p.numbered || spot = .number }
        else { stopped with distinct := stopped.distinct && !mayRepeat }
      | none => { stopped with distinct := stopped.distinct && !mayRepeat }

/-- Whether a sort is met because all rows agree in its spot.  `apart` is as
before. -/
def isFixed (facts : List Fact) (apart : Bool) (c : Candidate) (spot : Spot) : Bool :=
  let about := factsAbout facts spot none
  about.any (fun fact => fact.relation = some .equal || fact.relation = some .null) ||
    (apart && (about.find? fun fact => fact.relation.any Relation.isOneOf).any fun fact =>
      c.used.any fun other => other.id = fact.id)

/-- How many of the wanted sorts a candidate brings along, and whether it goes
backwards for it.  `apart` is as before. -/
def sorted (table : StoredTable) (facts : List Fact) (sorts : List (Option Spot × Bool))
    (apart : Bool) (c : Candidate) : Nat × Bool :=
  match c.route with
  | none => (0, false)
  | some route =>
    if c.single then (sorts.length, false)
    else
      let met := sorts.map fun (spot, _) => spot.any (isFixed facts apart c)
      let length := if route.isByNumber then 0 else route.length
      let p := advance table c apart length sorts route.parts 0 ⟨met, none, true, false⟩
      let count := if p.distinct || p.numbered then sorts.length else p.met.findIdx (!·)
      (min count sorts.length, p.backward.getD false)

/-- The cost of sorting rows of which the order is met as far as said. -/
def sortCost (demand : Demand) (rows : Estimate) (met : Nat) : Estimate :=
  let total := demand.sorts.length
  let part : Estimate := if met = 0 then 0 else Estimate.ofNat ((total - met) * 100 / total) - 66
  let cost := rows + Estimate.ofNat ((demand.width + 59) / 30) + part
  match demand.limit with
  | some limit => cost + 10 + (if met = 0 then 0 else 6) + Estimate.log (min limit rows)
  | none => cost + Estimate.log rows

/-! ### Choosing -/

/-- A candidate as it is compared with others. -/
structure Offer where
  candidate : Candidate
  backward : Bool
  cost : Estimate
  rows : Estimate
  unsorted : Estimate

/-- Whether an offer is to be preferred to an earlier one. -/
def Offer.beats (a b : Offer) : Bool :=
  a.cost < b.cost || (a.cost = b.cost &&
    (a.rows < b.rows || (a.rows = b.rows && a.unsorted < b.unsorted)))

/-- The best of some offers. -/
def Offer.best? : List Offer → Option Offer
  | [] => none
  | first :: rest =>
    some (rest.foldl (fun best offer => if offer.beats best then offer else best) first)

/-- The cost of a candidate inside of something that is done so often. -/
def repeated (often : Estimate) (c : Candidate) : Estimate :=
  Estimate.plus (c.cost + often) 0

/-- A candidate if no order is wanted. -/
def plainOffer (often : Estimate) (c : Candidate) : Offer :=
  ⟨c, false, c.repeated often, c.rows + often, c.repeated often - 2⟩

/-- A candidate if an order is wanted, and so many rows are expected. -/
def sortedOffer (table : StoredTable) (demand : Demand) (facts : List Fact)
    (often expected : Estimate) (c : Candidate) : Offer :=
  let (met, backward) := c.sorted table facts demand.sorts false
  let cost := c.repeated often
  if met < demand.sorts.length then
    ⟨c, backward, Estimate.plus cost (sortCost demand expected met) + 3, c.rows + often, cost⟩
  else ⟨c, backward, cost, c.rows + often, cost - 2⟩

/-- The way along a route of which nothing is in the wanted order.  It is gone
backwards if the rows for each of several values come in that order then. -/
def turned (table : StoredTable) (demand : Demand) (facts : List Fact) (offer : Offer) : Offer :=
  let c := offer.candidate
  let severalNumbers := c.route.any Route.isByNumber &&
    c.used.any fun fact => fact.relation.any Relation.isOneOf
  if 0 < (c.sorted table facts demand.sorts false).1 || severalNumbers then offer
  else
    let (met, backward) := c.sorted table facts demand.sorts true
    if met = demand.sorts.length then { offer with backward } else offer

/-- The best candidate.  If single values are looked up when no order is wanted,
the order is no reason to go along a whole route. -/
def choose? (table : StoredTable) (demand : Demand) (facts : List Fact) (often : Estimate)
    (candidates : List Candidate) : Option Offer := do
  let first ← Offer.best? (candidates.map (plainOffer often))
  let expected := first.rows + 1
  if demand.sorts.isEmpty || expected = 0 then return first
  let allowed := if first.candidate.isPointed && first.candidate.choice.isNone then
      candidates.filter fun c => c.choice.isNone && !c.used.isEmpty
    else candidates
  (Offer.best? (allowed.map (sortedOffer table demand facts often expected))).map
    (turned table demand facts)

end Candidate

end Polyquery.Sqlite.Access
