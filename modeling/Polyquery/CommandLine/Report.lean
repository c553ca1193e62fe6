import Polyquery.CommandLine.Arguments
import Polyquery.Connection
import Polyquery.Generated
import Polyquery.Output.RowTable
import Polyquery.Schema

/-!
# Reports of tasks

What each task shows: a text for readers and the same as fields.
-/

namespace Polyquery.CommandLine

open Output (Report)

/-- Lines as one text. -/
def joinLines (lines : List String) : String :=
  "\n".intercalate lines

/-- A statement with placeholders, and its values on a line of their own. -/
def statementLines (statement : Statement) : List String :=
  let values := statement.values.map Value.display
  statement.text ::
    if values.isEmpty then [] else ["-- params: [" ++ ", ".intercalate values ++ "]"]

/-- The lines of a generated query. -/
def generatedLines (placeholders : Bool) : Generated → List String
  | .sql statements =>
    if placeholders then statements.flatMap statementLines else [statements.display]
  | other => [other.display]

/-- What a query becomes for a backend. -/
def generatedReport (backend : Backend) (query : Query) (placeholders : Bool)
    (generated : Generated) : Report where
  text := joinLines
    (("-- " ++ backend.name ++ " " ++ query.command.name ++ " on " ++ query.table.name) ::
      generatedLines placeholders generated)
  fields := [("backend", .str backend.name), ("command", .str query.command.name),
    ("table", .str query.table.name), ("placeholders", .bool placeholders),
    ("generated", generated.toJson)]

/-- The number of rows. -/
def countText (count : Nat) : String :=
  toString count ++ (if count = 1 then " row" else " rows")

/-- The rows that a query gave. -/
def rowsReport (title : String) (query : Query) (rows : List Row) : Report where
  text := joinLines
    ((title ++ " " ++ query.command.name ++ " on " ++ query.table.name ++ ": " ++
        countText rows.length) ::
      if rows.isEmpty then [] else ["", Output.rowTable rows])
  fields := [("backend", .str title), ("command", .str query.command.name),
    ("table", .str query.table.name), ("count", .nat rows.length),
    ("rows", .arr (rows.map .obj))]

/-- The columns of a table, with their types in a column of their own. -/
def columnLines (columns : Columns) : List String :=
  let width := columns.foldl (fun width column => max width column.1.length) 0
  columns.map fun (name, type) =>
    "    " ++ String.ofList (Output.padded width name) ++ "  " ++ type

/-- The tables of a database with their columns. -/
def tableLines (tables : Tables) : List String :=
  tables.flatMap fun (name, columns) => ("  " ++ name) :: columnLines columns

/-- The databases with their tables. -/
def schemaLines (schema : Schema) : List String :=
  if schema.databases.isEmpty then ["No tables found."]
  else schema.databases.flatMap fun (name, tables) => name :: tableLines tables

/-- The tables and columns. -/
def schemaReport (title : String) (schema : Schema) : Report where
  text := joinLines (("Schema (" ++ title ++ ")") :: "" :: schemaLines schema)
  fields := [("backend", .str title), ("schema", schema.toJson)]

/-- The state of a connection. -/
def statusReport (backend : Backend) (status : ConnectionStatus) : Report where
  text := backend.name ++ ": " ++ status.display
  fields := ("backend", .str backend.name) :: status.fields

end Polyquery.CommandLine
