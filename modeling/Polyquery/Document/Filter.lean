import Polyquery.Json.Record
import Polyquery.Table

/-!
# Filters of query documents

A filter of a document is a comparison of a column with a value, or combines
other filters.  The form is recognised by the fields that are written: `all`,
`any`, `not`, or a comparison, tried in this order; other fields are ignored.
-/

namespace Polyquery

open Json (Source)

/-- What a query document can ask of a column: to compare with a value, or to be
null or not. -/
inductive Filter.Comparison where
  | eq
  | ne
  | lt
  | le
  | gt
  | ge
  | isNull
  | isNotNull
deriving DecidableEq

/-- The operator of a comparison. -/
def Filter.Comparison.operator : Filter.Comparison → Operator
  | eq => .eq
  | ne => .ne
  | lt => .lt
  | le => .le
  | gt => .gt
  | ge => .ge
  | isNull => .isNull
  | isNotNull => .isNotNull

/-- A condition as a query document states it. -/
inductive Filter where
  | all (filters : List Filter)
  | any (filters : List Filter)
  | not (filter : Filter)
  | compare (column : String) (comparison : Filter.Comparison) (value : Json)

namespace Filter

/-! ## Reading -/

/-- The comparisons of documents by their names. -/
def comparisons : List (String × Comparison) :=
  [("==", .eq), ("!=", .ne), ("<", .lt), ("<=", .le), (">", .gt), (">=", .ge),
    ("is_null", .isNull), ("is_not_null", .isNotNull)]

/-- A comparison is written as its name, or as an object whose only field has
that name and is null. -/
def Comparison.ofSource? : Source → Option Comparison
  | .str (some name) => comparisons.lookup name
  | .obj [(some name, .null)] => comparisons.lookup name
  | _ => none

/-- A written value, and what it says as a filter and as a list of filters. -/
structure Reading where
  source : Source
  one : Option Filter
  many : Option (List Filter)

/-- The reading of a field that is written exactly once. -/
def only? (fields : List (Option String × Reading)) (name : String) : Option Reading :=
  match fields.filter fun field => field.1 = some name with
  | [field] => some field.2
  | _ => none

/-- The value of a comparison; null if none is written. -/
def comparand? (fields : List (Option String × Reading)) : Option Json :=
  match fields.filter fun field => field.1 = some "value" with
  | [] => some .null
  | [field] => field.2.source.value? Json.depthLimit
  | _ => none

/-- The comparison that fields describe. -/
def comparison? (fields : List (Option String × Reading)) : Option Filter := do
  let column ← Source.text 0 (← only? fields "column").source
  let comparison ← Comparison.ofSource? (← only? fields "op").source
  let value ← comparand? fields
  some (.compare column comparison value)

/-- The filter that fields describe. -/
def ofReadings? (fields : List (Option String × Reading)) : Option Filter :=
  (((only? fields "all").bind Reading.many).map .all) <|>
    (((only? fields "any").bind Reading.many).map .any) <|>
    (((only? fields "not").bind Reading.one).map .not) <|>
    comparison? fields

mutual

/-- The filter that is written. -/
def ofSource? : Source → Option Filter
  | .obj fields => ofReadings? (readings fields)
  | _ => none

/-- The list of filters that is written. -/
def listOfSource? : Source → Option (List Filter)
  | .arr items => listOfSources? items
  | _ => none

/-- All filters of a list, if each element is one. -/
def listOfSources? : List Source → Option (List Filter)
  | [] => some []
  | item :: rest => do
    let filter ← ofSource? item
    let filters ← listOfSources? rest
    some (filter :: filters)

/-- The readings of the fields of an object. -/
def readings : List (Option String × Source) → List (Option String × Reading)
  | [] => []
  | (key, value) :: rest =>
    (key, ⟨value, ofSource? value, listOfSource? value⟩) :: readings rest

end

/-- Read a filter.  Every part of it has to be a value, ignored fields
included. -/
def reader : Source.Reader Filter := fun depth source => do
  let _ ← source.value? depth
  ofSource? source

/-! ## Meaning -/

/-- Combine conditions from left to right; an empty list is an error. -/
def combine (form : String) (operator : Operator) : List Expr → Result Expr
  | [] => .error (.generation (.emptyConditions form))
  | first :: rest => .ok (rest.foldl (Expr.binary operator) first)

/-- A comparison of a column with a value; tests for null take no value. -/
def compareExpr (column : Expr) (operator : Operator) (value : Json) : Expr :=
  match operator.placement with
  | .after => Expr.unary operator column
  | _ => Expr.binary operator column (Expr.literal (Value.ofJson value))

mutual

/-- The expression of a filter over the columns of a table. -/
def toExpr (table : Table) : Filter → Result Expr
  | .all filters => do combine "all" .and (← toExprs table filters)
  | .any filters => do combine "any" .or (← toExprs table filters)
  | .not filter => do return Expr.unary .not (← toExpr table filter)
  | .compare column comparison value => do
    return compareExpr (← table.column column) comparison.operator value

/-- The expressions of a list of filters. -/
def toExprs (table : Table) : List Filter → Result (List Expr)
  | [] => .ok []
  | filter :: rest => do
    let e ← toExpr table filter
    let es ← toExprs table rest
    return e :: es

end

end Filter

end Polyquery
