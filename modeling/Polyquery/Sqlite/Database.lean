import Polyquery.Database.Basic
import Polyquery.Sql.Upsert
import Polyquery.Sqlite.Engine

/-!
# SQLite

An engine behind a pool of connections.  Keys come back by asking for the number
of the row that was stored last: the rows of one statement are numbered in a
row, so that the numbers before it belong to the rows before the last one.
-/

namespace Polyquery.Sqlite

/-- The name in messages. -/
def title : String := Backend.sqlite.title

/-- The name of a database that is stored nowhere. -/
def memoryName : String := ":memory:"

/-- The keys of a number of rows that end with the given one. -/
def keysUpTo (last : Int) (count : Nat) : List Json :=
  (List.range count).map fun (i : Nat) => .int (last - count + 1 + i)

namespace Engine

variable {σ : Type} (engine : Engine σ)

/-- Run a statement for a run of rows: the keys if it asks for the last one. -/
def runDraft (run : UpsertRun) (draft : Draft) : Session (Client σ) (List Json) := do
  let rows ← engine.runStatement (draft.statement .sqlite .placeholders)
  if draft = UpsertRun.lastRowId then
    let last ← demand (rowId rows)
    return keysUpTo last run.rows.length
  else return []

/-- Store the rows of a run; the keys that were assigned to them. -/
def storeRun (table : Table) (run : UpsertRun) : Session (Client σ) (List Json) := do
  let drafts ← Session.ofResult (run.drafts .sqlite table)
  let keys ← drafts.mapM (engine.runDraft run)
  return keys.flatten

/-- Store rows run by run; the rows with the keys that were assigned. -/
def store (table : Table) (rows : List Row) : Session (Client σ) (List Row) := do
  acquire
  let keys ← (UpsertRun.partition table rows).mapM (engine.storeRun table)
  return table.assignKeys rows keys.flatten

/-- The tables that are not internal, with the types of their columns. -/
def schema : Session (Client σ) Schema := do
  acquire
  let client ← get
  let tables ← demand (engine.tables client.store)
  return tables.foldl (fun schema (table, columns) =>
    columns.foldl (fun schema (column, type) =>
      schema.addColumn client.name table column type) schema) Schema.empty

/-- Ask the engine whether it is there. -/
def check : StateM (Client σ) ConnectionStatus := do
  match ← ExceptT.run (engine.runStatements [⟨"SELECT 1", []⟩]) with
  | .ok _ => return .connected
  | .error (.database failure) => return failure.status
  | .error other => return .failed other.message

/-- An engine as a database.  It has no transactions. -/
def database : Database (Client σ) where
  backend := .sqlite
  title := title
  execute generated handle := do
    Database.rejectHandle title handle
    match generated with
    | .sql statements => engine.runStatements statements
    | .elastic _ => Database.unsupported "Elasticsearch queries" title
  upsert table rows handle := do
    Database.rejectHandle title handle
    engine.store table rows
  update _ _ _ := Database.unsupported "update" title
  putMapping _ := Database.unsupported "put_mapping" title
  schema := engine.schema
  start _ _ := Database.unsupported "start_transaction" title
  commit _ := Database.unsupported "commit_transaction" title
  rollback _ := Database.unsupported "rollback_transaction" title
  check := engine.check
  close := modify fun client => { client with closed := true }

end Engine

/-- SQLite as a database. -/
def database : Database Link :=
  Store.engine.database

/-- Create a table. -/
def createTable (name : String) (columns : List (String × String)) (key : List String) :
    Session Link Unit := do
  acquire
  let link ← get
  let declared := columns.mapM fun (name, declaration) => Column.ofDeclaration? name declaration
  match declared with
  | none => throw (.database Fault.syntaxError.failure)
  | some columns =>
    let created := (link.store.create name columns key).mapError Fault.failure
    set { link with store := ← demand created }

end Polyquery.Sqlite
