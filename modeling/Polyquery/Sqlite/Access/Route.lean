import Polyquery.Sqlite.Access.Estimate
import Polyquery.Sqlite.Access.Fact

/-!
# Routes through a table

The rows of a table can be gone through by their numbers or along a key.  A route
knows by which spots it is ordered and what a step on it costs.  Nothing is known
about the rows themselves, so that every table counts as a million rows.
-/

namespace Polyquery.Sqlite.Access

/-- What a selection asks of a table. -/
structure Demand where
  /-- The columns of which cells are needed. -/
  used : List Nat
  /-- The spots by which rows are to be ordered, as far as the order is by spots,
  and whether downwards. -/
  sorts : List (Option Spot × Bool)
  /-- The number of columns of the result. -/
  width : Nat
  /-- The estimate of the number of rows that are wanted, if it is limited. -/
  limit : Option Estimate

/-- A way through the rows of a table. -/
structure Route where
  /-- The key along which the route goes; none if it goes by the numbers. -/
  key : Option Key
  /-- The spots by which the rows are ordered, and whether downwards. -/
  parts : List (Spot × Bool)
  /-- How many of the parts tell rows apart. -/
  length : Nat
  /-- How many of the parts can be used to look rows up. -/
  reach : Nat
  /-- The cells that the key holds are all that is needed. -/
  covering : Bool
  /-- What a step costs in comparison with a row. -/
  step : Estimate
  /-- The place of the route among those that help with the order; zero for those
  that do not. -/
  rank : Nat
  /-- None of the columns can be null. -/
  required : Bool

namespace Route

/-- The estimate of the number of rows of a table. -/
def allRows : Estimate := 200

/-- The estimates of the number of rows that agree on the first columns of a
key. -/
def agreements : List Estimate :=
  [200, 33, 32, 30, 28, 27]

/-- The estimate of the number of rows that agree on so many parts. -/
def agreeing (route : Route) (count : Nat) : Estimate :=
  if route.length ≤ count then 0 else agreements.getD count 23

/-- Whether a route is by the numbers. -/
def isByNumber (route : Route) : Bool :=
  route.key.isNone

/-- The width of a row. -/
def rowWidth (table : StoredTable) : Estimate :=
  let cells := table.columns.foldl (fun sum column => sum + column.width) 0
  Estimate.ofNat (4 * (if table.numbering.isNone then cells + 1 else cells))

/-- The width of what a key holds for a row: its columns and the number. -/
def keyWidth (table : StoredTable) (key : Key) : Estimate :=
  let cells := key.positions.foldl (fun sum position =>
    sum + ((table.columns[position]?).map Column.width).getD 0) 0
  Estimate.ofNat (4 * (cells + 1))

/-- Whether the wanted order is one by the number of a row or by one of the given
columns. -/
def helps (demand : Demand) (spots : List Spot) : Bool :=
  demand.sorts.any fun (spot, _) =>
    match spot with
    | some .number => true
    | some spot => spots.contains spot
    | none => false

/-- The route by the numbers. -/
def byNumber (demand : Demand) : Route :=
  ⟨none, [(.number, false)], 1, 1, false, 16, if helps demand [] then 1 else 0, true⟩

/-- The route along a key, which is the `i`-th of the table. -/
def along (table : StoredTable) (demand : Demand) (key : Key) (i : Nat) : Route :=
  let spots := key.columns.map fun column =>
    ((spotOf? table (.column column.position .blob)).getD .number, column.descending)
  let step := 1 + Int.tdiv (15 * keyWidth table key) (rowWidth table)
  { key := some key
    parts := spots ++ [(.number, false)]
    length := key.columns.length
    reach := if key.primary then key.columns.length else key.columns.length + 1
    covering := demand.used.all fun position => key.positions.contains position
    step := step
    rank := if helps demand (spots.map Prod.fst) then i + 2 else 0
    required := key.positions.all fun position =>
      (table.columns[position]?.map Column.required).getD false }

/-- All routes: by the numbers first, then along the keys from the last one to the
first. -/
def all (table : StoredTable) (demand : Demand) : List Route :=
  byNumber demand :: table.keys.reverse.zipIdx.map fun (key, i) => along table demand key i

/-- What the column of a part prefers; the number of a row takes everything. -/
def affinity? (table : StoredTable) : Spot → Option Affinity
  | .number => none
  | .column position => table.columns[position]?.map Column.affinity

end Route

end Polyquery.Sqlite.Access
