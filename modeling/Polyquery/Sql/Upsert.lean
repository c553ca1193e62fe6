import Polyquery.Query
import Polyquery.Sql.Expression

/-!
# Storing rows in SQL

Rows are stored run by run: a run is a maximal stretch of neighbouring rows that
have the same columns of the table.  MySQL and SQLite replace rows; PostgreSQL
inserts them and updates on a conflict of keys.
-/

namespace Polyquery

/-- Neighbouring rows with the same columns of the table. -/
structure UpsertRun where
  /-- The columns in the order of the table. -/
  columns : List String
  rows : List Row

namespace UpsertRun

/-- Whether the rows carry the first primary key. -/
def hasKey (table : Table) (run : UpsertRun) : Bool :=
  match table.primaryKeys with
  | [] => false
  | key :: _ => run.columns.contains key

/-- Put a row in front of runs: into the first run if it has the same columns,
else into a run of its own. -/
def extend (columns : List String) (row : Row) : List UpsertRun → List UpsertRun
  | [] => [⟨columns, [row]⟩]
  | run :: runs =>
    if run.columns = columns then ⟨columns, row :: run.rows⟩ :: runs
    else ⟨columns, [row]⟩ :: run :: runs

/-- Cut rows into runs. -/
def partition (table : Table) (rows : List Row) : List UpsertRun :=
  rows.foldr (fun row runs => extend (table.presentColumns row) row runs) []

/-- The names of the columns. -/
def columnNames (run : UpsertRun) : List (List Piece) :=
  run.columns.map fun column => [.name column]

/-- The values of a row as parameters. -/
def writeRow (run : UpsertRun) (row : Row) : Writing (List (List Piece)) :=
  run.columns.mapM fun column => do return [← Writing.bindField (Fields.find? column row)]

/-- Pieces in parentheses. -/
def tuple (separator : String) (items : List (List Piece)) : List Piece :=
  [.text "("] ++ separated separator items ++ [.text ")"]

/-- The statement up to the values, and the values of each row. -/
def writeValues (d : Dialect) (separator : String) (table : Table) (run : UpsertRun) :
    Writing (List Piece × List (List (List Piece))) := do
  let rows ← run.rows.mapM run.writeRow
  let pieces := [.text (d.keyword .upsert ++ " INTO "), .name table.name, .text " "] ++
    tuple separator run.columnNames ++ [.text " VALUES "] ++
    separated separator (rows.map (tuple separator))
  return (pieces, rows)

/-- The statement that replaces the rows of a run. -/
def writeReplace (d : Dialect) (table : Table) (run : UpsertRun) : Writing (List Piece) := do
  let (pieces, _) ← run.writeValues d ", " table
  return pieces ++ [.text ";"]

/-- What is stored when a key is there already: the parameters of the only row,
or else the row that could not be inserted. -/
def conflictValues (run : UpsertRun) (rows : List (List (List Piece))) : List (List Piece) :=
  match rows with
  | [row] => row
  | _ => run.columns.map fun column => [.text "EXCLUDED.", .name column]

/-- The assignment of all columns: a single one without parentheses. -/
def assignment (names values : List (List Piece)) : List Piece :=
  match names, values with
  | [name], [value] => name ++ [.text " = "] ++ value
  | names, values => tuple "," names ++ [.text " = "] ++ tuple "," values

/-- The restriction of an update to the key of the only row, which stands in
the text as literals. -/
def keyCondition (table : Table) (row : Row) : List Piece :=
  let names := table.primaryKeys.map fun key => [.name table.name, .text ".", .name key]
  let values := table.primaryKeys.map fun key =>
    [.value (((Fields.find? key row).map Value.ofJson).getD .null)]
  [.text " WHERE "] ++ tuple "," names ++ [.text " = "] ++ tuple "," values

/-- What happens when a key is there already. -/
def conflictClause (table : Table) (run : UpsertRun) (rows : List (List (List Piece))) :
    List Piece :=
  if run.hasKey table then
    [.text " ON CONFLICT "] ++ tuple "," (table.primaryKeys.map fun key => [.name key]) ++
      [.text " DO UPDATE SET "] ++ assignment run.columnNames (run.conflictValues rows) ++
      match run.rows with
      | [row] => keyCondition table row
      | _ => []
  else []

/-- The request for the keys of the stored rows. -/
def returningClause (table : Table) : List Piece :=
  match table.primaryKeys with
  | [] => []
  | key :: _ => [.text " RETURNING ", .name key, .text " AS insertid"]

/-- The statement that inserts or updates the rows of a run. -/
def writeInsert (d : Dialect) (table : Table) (run : UpsertRun) : Writing (List Piece) := do
  let (pieces, rows) ← run.writeValues d "," table
  return pieces ++ run.conflictClause table rows ++ returningClause table ++ [.text ";"]

/-- The statement that stores the rows of a run. -/
def write (d : Dialect) (table : Table) (run : UpsertRun) : Writing (List Piece) :=
  match d with
  | .mysql | .sqlite => run.writeReplace d table
  | .postgres => run.writeInsert d table

/-- The statement that asks for the key of the last stored row. -/
def lastRowId : Draft :=
  ⟨[.text "SELECT last_insert_rowid() AS id", .text ";"], []⟩

/-- The statements that follow the one that stores the rows: SQLite is asked for
the key that it assigned. -/
def followUp (d : Dialect) (table : Table) (run : UpsertRun) : List Draft :=
  match d with
  | .sqlite => if table.singleKey?.isSome && !run.hasKey table then [lastRowId] else []
  | _ => []

/-- The statements of a run; an error if its rows have no column of the
table. -/
def drafts (d : Dialect) (table : Table) (run : UpsertRun) : Result (List Draft) :=
  if run.columns.isEmpty then .error (.generation (.emptyRow table.name))
  else match (run.write d table).run with
    | (.ok pieces, params) => .ok (⟨pieces, params⟩ :: run.followUp d table)
    | (.error e, _) => .error e

end UpsertRun

/-- The statements that store the rows of a query. -/
def Query.upsertDrafts (d : Dialect) (query : Query) : Result (List Draft) := do
  let runs ← (UpsertRun.partition query.table query.upserts).mapM fun run =>
    run.drafts d query.table
  return runs.flatten

end Polyquery
