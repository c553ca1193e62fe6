import Polyquery.Expression.Arity

/-!
# Search conditions

A cluster selects documents by nested boolean clauses.  The conditions of a
query are folded into one clause: conjunctions add to the clause at hand,
comparisons of one column are merged into one range that keeps the tightest
bounds, and disjunctions and negations open clauses of their own.
-/

namespace Polyquery.Search

/-- The bounds of a range, one for each comparison. -/
structure Bounds where
  gt : Option Value
  ge : Option Value
  lt : Option Value
  le : Option Value
deriving DecidableEq

/-- A search condition. -/
inductive Clause where
  /-- The column matches a value. -/
  | equal (column : String) (value : Value)
  /-- The column has a value. -/
  | present (column : String)
  /-- The column lies within bounds. -/
  | range (column : String) (bounds : Bounds)
  /-- Every condition of the first list holds and none of the second. -/
  | all (filter mustNot : List Clause)
  /-- At least one condition holds. -/
  | any (should : List Clause)

/-! ## Bounds -/

namespace Bounds

/-- No bounds. -/
def none : Bounds :=
  ⟨Option.none, Option.none, Option.none, Option.none⟩

/-- The bound of a comparison. -/
def get (bounds : Bounds) : Operator → Option Value
  | .gt => bounds.gt
  | .ge => bounds.ge
  | .lt => bounds.lt
  | .le => bounds.le
  | _ => Option.none

/-- Replace the bound of a comparison. -/
def put (operator : Operator) (value : Value) (bounds : Bounds) : Bounds :=
  match operator with
  | .gt => { bounds with gt := some value }
  | .ge => { bounds with ge := some value }
  | .lt => { bounds with lt := some value }
  | .le => { bounds with le := some value }
  | _ => bounds

/-- The order of a new bound to the present one in which the new bound is the
tighter one. -/
def tighter : Operator → Ordering
  | .lt | .le => .lt
  | _ => .gt

/-- Add a bound and keep the tighter one; none if the new bound cannot be
compared with the present one. -/
def tighten? (operator : Operator) (value : Value) (bounds : Bounds) : Option Bounds :=
  match bounds.get operator with
  | .none => some (bounds.put operator value)
  | some current =>
    match value.compare current with
    | .none => Option.none
    | some order =>
      if order = tighter operator then some (bounds.put operator value) else some bounds

/-- The name of a comparison in a range. -/
def nameOf : Operator → String
  | .gt => "gt"
  | .ge => "gte"
  | .lt => "lt"
  | _ => "lte"

/-- The bounds as a JSON object. -/
def toJson (bounds : Bounds) : Json :=
  .obj ([Operator.gt, .ge, .lt, .le].filterMap fun operator =>
    (bounds.get operator).map fun value => (nameOf operator, value.toJson))

end Bounds

/-! ## Folding -/

/-- The clause under construction. -/
structure Fold where
  filter : List Clause
  mustNot : List Clause

namespace Fold

/-- The clause that every document satisfies. -/
def empty : Fold :=
  ⟨[], []⟩

def clause (fold : Fold) : Clause :=
  .all fold.filter fold.mustNot

/-- Add a condition that has to hold. -/
def require (condition : Clause) (fold : Fold) : Fold :=
  { fold with filter := fold.filter ++ [condition] }

/-- Add a condition that must not hold. -/
def exclude (condition : Clause) (fold : Fold) : Fold :=
  { fold with mustNot := fold.mustNot ++ [condition] }

/-- Add a bound to the first range of a column.  A column without a range gets
one; a bound that cannot be compared becomes a range of its own at the end. -/
def bound (column : String) (operator : Operator) (value : Value) : List Clause → List Clause
  | [] => [.range column (Bounds.none.put operator value)]
  | .range other bounds :: rest =>
    if other = column then
      match bounds.tighten? operator value with
      | some tightened => .range other tightened :: rest
      | none => .range other bounds :: (rest ++ [.range column (Bounds.none.put operator value)])
    else .range other bounds :: bound column operator value rest
  | condition :: rest => condition :: bound column operator value rest

/-- Add a comparison of a column with a value. -/
def compare (column : String) (operator : Operator) (value : Value) (fold : Fold) : Fold :=
  match operator with
  | .eq => fold.require (.equal column value)
  | .ne => fold.exclude (.equal column value)
  | _ => { fold with filter := bound column operator value fold.filter }

/-- The branches that an operand adds to a disjunction: those of an operand that
is a disjunction itself, or else the operand. -/
def branches (operand : Expr) (folded : Fold) : List Clause :=
  match operand.operator?, folded.filter with
  | some .or, [.any should] => should
  | _, _ => [folded.clause]

end Fold

/-- The column that an expression names.  The expression has to be a member of
the queried table. -/
def columnName (table : String) (e : Expr) : Result String :=
  match e with
  | .node (.op .member) [owner, column] =>
    match owner.reference? with
    | none => .error (.generation (.noTableName e.display))
    | some name =>
      if name ≠ table then .error (.generation (.otherTable e.display table))
      else match column.reference? with
        | none => .error (.generation (.noColumnName e.display))
        | some name => .ok name
  | e => .error (.generation (.noColumnName e.display))

/-- Fold a condition into a clause. -/
def fold (table : String) : Expr → Fold → Result Fold
  | .node (.op .and) [left, right], clause => do
    let clause ← fold table left clause
    fold table right clause
  | .node (.op .or) [left, right], clause => do
    let first ← fold table left .empty
    let second ← fold table right .empty
    return clause.require (.any (first.branches left ++ second.branches right))
  | .node (.op .not) [operand], clause => do
    let negated ← fold table operand .empty
    return clause.exclude negated.clause
  | .node (.op .isNull) [operand], clause => do
    return clause.exclude (.present (← columnName table operand))
  | .node (.op .isNotNull) [operand], clause => do
    return clause.require (.present (← columnName table operand))
  | .node (.op o) [left, right], clause =>
    if o.isComparison then do
      let column ← columnName table left
      match right.literal? with
      | none => .error (.generation (.notALiteral (Expr.node (.op o) [left, right]).display))
      | some value => return clause.compare column o value
    else do
      (Expr.node (.op o) [left, right]).checkArity
      .error (.generation (.unsupportedFilter (Expr.node (.op o) [left, right]).display))
  | .node (.op o) operands, _ => do
    (Expr.node (.op o) operands).checkArity
    .error (.generation (.unsupportedFilter (Expr.node (.op o) operands).display))
  | .node symbol operands, _ => do
    (Expr.node symbol operands).checkArity
    .error (.generation (.notAnOperator (Expr.node symbol operands).display))

/-! ## JSON -/

namespace Clause

/-- An object with one field. -/
def wrap (name : String) (value : Json) : Json :=
  .obj [(name, value)]

mutual

/-- A condition as JSON. -/
def toJson : Clause → Json
  | .equal column value => wrap "match" (wrap column value.toJson)
  | .present column => wrap "exists" (wrap "field" (.str column))
  | .range column bounds => wrap "range" (wrap column bounds.toJson)
  | .all filter mustNot =>
    wrap "bool" (.obj
      ((if filter.isEmpty then [] else [("filter", .arr (listJson filter))]) ++
        if mustNot.isEmpty then [] else [("must_not", .arr (listJson mustNot))]))
  | .any should =>
    wrap "bool" (.obj [("minimum_should_match", .int 1), ("should", .arr (listJson should))])

/-- A list of conditions as JSON. -/
def listJson : List Clause → List Json
  | [] => []
  | clause :: rest => clause.toJson :: listJson rest

end

end Clause

end Polyquery.Search
