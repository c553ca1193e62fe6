import Polyquery.Sqlite.Access.Route

/-!
# Candidates for reading a table

A candidate goes along a route, from one end to the other or only where some
facts lead, or it looks up alternatives one by one.  Of each candidate the cost
and the number of rows are estimated.  Facts that are not used to look up rows
make fewer of them remain.
-/

namespace Polyquery.Sqlite.Access

/-- A way of reading a table. -/
structure Candidate where
  /-- The route; none if alternatives are looked up. -/
  route : Option Route
  /-- The alternatives that are looked up, and the fact that holds them. -/
  choice : Option Fact
  /-- The facts that lead along the route. -/
  used : List Fact
  /-- How many parts of the route have single values. -/
  points : Nat
  /-- There is one row at most. -/
  single : Bool
  cost : Estimate
  rows : Estimate

namespace Candidate

/-- The place among the routes that help with the order. -/
def rank (c : Candidate) : Nat :=
  (c.route.map Route.rank).getD 0

/-- Whether the candidate goes along a key. -/
def isKeyed (c : Candidate) : Bool :=
  c.route.any fun route => !route.isByNumber

/-- Whether cells are read from a key only. -/
def isCovering (c : Candidate) : Bool :=
  c.route.any Route.covering

/-- Whether facts lead to single values. -/
def isPointed (c : Candidate) : Bool :=
  c.used.any fun fact => fact.relation.any Relation.isPoint

/-! ### Estimates of rows -/

/-- The rows that remain after all conjuncts of which none was used to look them
up.  A derived fact stands for the conjunct with the number of its source, even if
the source is a conjunct of a condition around this one. -/
def remaining (table : StoredTable) (facts used : List Fact) (rows : Estimate) : Estimate :=
  let unused := facts.filter fun fact =>
    fact.isConjunct && Condition.mentions table fact.condition &&
      !used.any fun other =>
        other.id = fact.id || (!other.isConjunct && other.source.2 = fact.id.2)
  let reductions := unused.filterMap fun fact =>
    if fact.relation = some .equal then some (if fact.common then 10 else 20) else none
  min (rows - unused.length) (Route.allRows - reductions.foldl max 0)

/-- The rows in a range of which a bound or both are given. -/
def inRange (lower upper : Option Fact) (rows : Estimate) : Estimate :=
  let bounds := lower.toList ++ upper.toList
  let strict := bounds.filter fun fact => fact.relation ≠ some .present
  let both : Estimate := if lower.isSome && upper.isSome then 20 else 0
  min (rows - bounds.length) (max 10 (rows - 20 * strict.length - both))

/-! ### Along a route -/

/-- The candidate that goes along a whole route. -/
def whole (table : StoredTable) (facts : List Fact) (route : Route) : Candidate :=
  let rows := remaining table facts [] Route.allRows
  let walk := Route.allRows + route.step
  let own (fact : Fact) : Bool :=
    (Condition.spots table fact.condition).all fun spot => route.parts.any (·.1 = spot)
  let visits := (facts.takeWhile own).foldl (fun visits fact =>
    if fact.relation = some .equal then visits - 20 else visits - 1) (Route.allRows + 16)
  let cost := if route.isByNumber || route.covering then walk else Estimate.plus walk visits
  ⟨some route, none, [], 0, false, cost, rows⟩

/-- Whether it is worth going along a whole route: it helps with the order, or
saves reading the rows themselves. -/
def isWorthwhile (table : StoredTable) (route : Route) : Bool :=
  match route.key with
  | none => true
  | some key =>
    route.rank ≠ 0 || (route.covering && Route.keyWidth table key < Route.rowWidth table)

/-- A part of the way along a route. -/
structure Start where
  used : List Fact
  points : Nat
  /-- The bound from which the route is gone. -/
  lower : Option Fact
  /-- The rows, before the number of single values of a part is taken into account. -/
  rows : Estimate
  /-- The number of single values. -/
  factor : Estimate
  single : Bool

/-- The candidate that goes along a route as far as facts lead. -/
def limited (table : StoredTable) (facts : List Fact) (route : Route) (start : Start)
    (rows : Estimate) : Candidate :=
  let walk := Estimate.plus (Estimate.log Route.allRows) (rows + route.step)
  let cost := if route.isByNumber || route.covering then walk
    else Estimate.plus walk (rows + 16)
  ⟨some route, none, start.used, start.points, start.single, cost + start.factor,
    remaining table facts start.used (rows + start.factor)⟩

/-- Use one more fact about the next part of a route: how the way goes on, and
the rows on it. -/
def Start.use (route : Route) (start : Start) (fact : Fact) : Option (Start × Estimate) :=
  let used := start.used ++ [fact]
  let count := start.points + 1
  let rows := start.rows + route.agreeing count - route.agreeing start.points
  let last := (route.parts.getD start.points (.number, false)).1 = .number ||
    (start.factor = 0 && count = route.length && (route.required || route.length = 1))
  match fact.relation with
  | some .equal => some ({ start with used, points := count, rows, single := last }, rows)
  | some .null =>
    some ({ start with used, points := count, rows := rows + 10 }, rows + 10)
  | some (.oneOf n) =>
    let factor := start.factor + Estimate.ofNat n
    some ({ start with used, points := count, rows, factor }, rows)
  | some .above | some .present =>
    some ({ start with used, lower := some fact }, inRange (some fact) none start.rows)
  | some .below => some ({ start with used }, inRange start.lower (some fact) start.rows)
  | none => none

/-- The candidates that go along a route from where they stand.  `groups` are the
facts of a condition and of those around it; only the first leave fewer rows. -/
def onwards (table : StoredTable) (groups : List (List Fact)) (route : Route) :
    Nat → Start → List Candidate
  | 0, _ => []
  | fuel + 1, start =>
    match route.parts[start.points]? with
    | none => []
    | some (spot, _) =>
      (factsAbout groups.flatten spot (Route.affinity? table spot)).flatMap fun fact =>
        let isUpper := fact.relation = some .below
        let isVoid := (fact.relation = some .null || fact.relation = some .present) &&
          Condition.neverNull table spot
        if isVoid || (start.lower.isSome && !isUpper) then []
        else
          match start.use route fact with
          | none => []
          | some (next, rows) =>
            let here := limited table (groups.headD []) route next rows
            if isUpper || route.reach ≤ next.points then [here]
            else here :: onwards table groups route fuel next

/-- The candidates along a route that use facts. -/
def led (table : StoredTable) (groups : List (List Fact)) (route : Route) : List Candidate :=
  onwards table groups route (2 * route.parts.length) ⟨[], 0, none, Route.allRows, 0, false⟩

/-! ### Comparison of facts -/

/-- Whether another candidate goes along the same key and has single values for more
of it. -/
def hasFewerPoints (a b : Candidate) : Bool :=
  a.points < b.points && a.route.map Route.key = b.route.map Route.key

/-- Whether all facts that a candidate uses are among those of another one, which
uses more. -/
def usesFewer (a b : Candidate) : Bool :=
  a.used.length < b.used.length &&
    (a.used.all fun fact => b.used.any fun other => other.id = fact.id) &&
    !(a.isCovering && !b.isCovering)

/-- Whether another candidate does better on the same way but is estimated not to. -/
def isPartOf (a b : Candidate) : Bool :=
  !(b.cost < a.cost && b.rows < a.rows) && (a.hasFewerPoints b || a.usesFewer b)

/-- Correct the estimates of a candidate along a key: facts make a way no more
expensive than the same way without them. -/
def adjusted (others : List Candidate) (c : Candidate) : Candidate :=
  if !c.isKeyed then c
  else
    others.foldl (fun c other =>
      if !other.isKeyed then c
      else if other.isPartOf c then
        { c with cost := min other.cost c.cost, rows := min (other.rows - 1) c.rows }
      else if c.isPartOf other then
        { c with cost := max other.cost c.cost, rows := max (other.rows + 1) c.rows }
      else c) c

/-! ### Alternatives -/

/-- The cheapest of some candidates, with the least number of rows that was seen
on the way to it. -/
def cheapest : List Candidate → Option (Estimate × Estimate)
  | [] => none
  | first :: rest =>
    some (rest.foldl (fun (cost, rows) c =>
      if c.cost ≤ cost then (c.cost, min rows c.rows) else (cost, rows)) (first.cost, first.rows))

/-- Costs and rows of alternatives together. -/
def together : List (Option (Estimate × Estimate)) → Option (Estimate × Estimate)
  | [] => none
  | first :: rest =>
    rest.foldl (fun sum next => do
      let (cost, rows) ← sum
      let (more, others) ← next
      return (Estimate.plus cost more, Estimate.plus rows others)) first

/-- The candidate that looks up the alternatives of a conjunct one by one, if each
of them leads along some route.  `others` are the candidates for the table as a
whole, `around` the facts of the conjunct and its neighbours and of the
conditions around them. -/
def choice? (table : StoredTable) (routes : List Route) (others : List Candidate) :
    Nat → List (List Fact) → Fact → Option Candidate
  | 0, _, _ => none
  | fuel + 1, around, fact =>
    let alternatives := Condition.alternatives fact.condition
    if !isIndexable table alternatives then none
    else
      let groups := alternatives.flatMap (alternativeFacts table around.length)
      let costs := groups.map fun group =>
        let inner := group :: around
        cheapest ((routes.flatMap (led table inner)).map (adjusted others) ++
          (group.filter Fact.isChoice).filterMap (choice? table routes others fuel inner))
      (together costs).map fun (cost, rows) =>
        ⟨none, some fact, [fact], 0, false, cost + 1, rows⟩

/-! ### Selection -/

/-- Whether a candidate makes another one superfluous. -/
def isBetter (a b : Candidate) : Bool :=
  a.rank = b.rank && a.cost ≤ b.cost && a.rows ≤ b.rows

/-- Put a candidate in the place of the first one that it makes superfluous. -/
def settle (c : Candidate) : List Candidate → List Candidate
  | [] => [c]
  | other :: rest =>
    if other.isBetter c then other :: rest
    else if c.isBetter other then c :: rest.filter fun further => !c.isBetter further
    else other :: settle c rest

/-- Add a candidate, unless another one makes it superfluous. -/
def insert (others : List Candidate) (c : Candidate) : List Candidate :=
  settle (adjusted others c) others

/-- All candidates that are worth considering. -/
def all (table : StoredTable) (demand : Demand) (fuel : Nat) (facts : List Fact) :
    List Candidate :=
  let routes := Route.all table demand
  let plain := routes.flatMap fun route =>
    (if isWorthwhile table route then [whole table facts route] else []) ++
      led table [facts] route
  (facts.filter Fact.isChoice).foldl (fun others fact =>
    match choice? table routes others fuel [facts] fact with
    | some c => insert others c
    | none => others) (plain.foldl insert [])

end Candidate

end Polyquery.Sqlite.Access
