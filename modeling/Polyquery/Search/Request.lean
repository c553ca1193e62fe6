import Polyquery.Query
import Polyquery.Search.Clause

/-!
# Requests to a cluster

A selection or deletion becomes one search request, an upsert hands on its rows.
Both travel in an envelope that names the index, the table and its columns.
-/

namespace Polyquery.Search

/-- What to search for. -/
structure Body where
  /-- The wanted columns; none means all. -/
  source : Option (List String)
  sorts : Option (List (String × SortOrder))
  condition : Option Clause

/-- A request to search an index. -/
structure Request where
  index : String
  type : String
  /-- The number of documents to leave out at the start. -/
  start : Option Nat
  /-- The largest number of documents. -/
  size : Option Nat
  body : Body

/-- A field that is left out if it has no value. -/
def optionalField (name : String) (value : Option Json) : List (String × Json) :=
  match value with
  | none => []
  | some value => [(name, value)]

namespace Body

def toJson (body : Body) : Json :=
  .obj (optionalField "_source" (body.source.map Json.strings) ++
    optionalField "sort" (body.sorts.map fun sorts =>
      .arr (sorts.map fun sort => .obj [(sort.1, .str sort.2.name)])) ++
    optionalField "query" (body.condition.map Clause.toJson))

end Body

namespace Request

def toJson (request : Request) : Json :=
  .obj ([("index", .str request.index), ("type", .str request.type)] ++
    optionalField "from" (request.start.map Json.nat) ++
    optionalField "size" (request.size.map Json.nat) ++
    [("body", request.body.toJson)])

/-- A number that is left out if it is zero. -/
def nonZero? (n : Nat) : Option Nat :=
  if n = 0 then none else some n

/-- The columns that a selection names. -/
def source (query : Query) : Result (Option (List String)) :=
  if query.selectsAll || query.command ≠ .select then .ok none
  else do
    return some (← query.selected.mapM (columnName query.table.name))

/-- The columns to sort by. -/
def sorts (query : Query) : Result (Option (List (String × SortOrder))) :=
  if query.sorts.isEmpty then .ok none
  else do
    return some (← query.sorts.mapM fun sort => do
      return (← columnName query.table.name sort.expr, sort.order))

/-- The conditions, folded into one clause. -/
def condition (query : Query) : Result (Option Clause) :=
  if query.filters.isEmpty then .ok none
  else do
    let folded ← query.filters.foldlM
      (fun clause filter => fold query.table.name filter clause) Fold.empty
    return some folded.clause

/-- The search request of a selection or deletion. -/
def ofQuery (query : Query) : Result Request := do
  if !query.aliases.isEmpty then throw (.generation .aliasesUnsupported)
  let source ← source query
  let sorts ← sorts query
  let condition ← condition query
  return {
    index := query.table.database
    type := query.table.name
    start := nonZero? query.skip
    size := nonZero? query.take
    body := ⟨source, sorts, condition⟩ }

end Request

/-- One item of an envelope. -/
inductive Param where
  | search (request : Request)
  | row (row : Row)

def Param.toJson : Param → Json
  | .search request => request.toJson
  | .row fields => .obj fields

/-- A query as it is handed to a cluster. -/
structure Envelope where
  index : String
  table : String
  primaryKeys : List String
  fields : List String
  command : Command
  params : List Param

namespace Envelope

def toJson (envelope : Envelope) : Json :=
  .obj [("index", .str envelope.index), ("table", .str envelope.table),
    ("primaryKeys", Json.strings envelope.primaryKeys),
    ("fields", Json.strings envelope.fields),
    ("op", .str envelope.command.name),
    ("params", .arr (envelope.params.map Param.toJson))]

/-- The envelope of a query. -/
def ofQuery (query : Query) : Result Envelope := do
  let params ← match query.command with
    | .upsert => pure (query.upserts.map Param.row)
    | _ => do pure [Param.search (← Request.ofQuery query)]
  return {
    index := query.table.database
    table := query.table.name
    primaryKeys := query.table.primaryKeys
    fields := query.table.columns
    command := query.command
    params := params }

end Envelope

end Polyquery.Search
