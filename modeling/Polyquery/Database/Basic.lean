import Polyquery.Generated
import Polyquery.Schema
import Polyquery.Session
import Polyquery.Sql.Transaction

/-!
# Databases

A database is what generated queries run on.  Rows are stored through an action
of their own, because the keys that a database assigns are put into the rows.
Actions that a kind of database does not have fail.
-/

namespace Polyquery

/-- The actions of a database whose connection has states in `σ`. -/
structure Database (σ : Type) where
  backend : Backend
  /-- The name in messages. -/
  title : String
  /-- Run generated queries in order; the rows of all of them. -/
  execute : Generated → Option Handle → Session σ (List Row)
  /-- Store rows; the rows with the keys that were assigned. -/
  upsert : Table → List Row → Option Handle → Session σ (List Row)
  /-- Change fields of documents. -/
  update : Table → List Row → Option Handle → Session σ (List Row)
  /-- Create the index of a table and set its mapping. -/
  putMapping : Table → Session σ Json
  schema : Session σ Schema
  start : Isolation → Bool → Session σ Handle
  commit : Handle → Session σ Unit
  rollback : Handle → Session σ Unit
  check : StateM σ ConnectionStatus
  /-- Give the connection up. -/
  close : Session σ Unit

namespace Database

variable {σ : Type}

/-- An action that a kind of database does not have. -/
def unsupported {α : Type} (operation title : String) : Session σ α :=
  throw (.unsupported operation title)

/-- A database without transactions takes no handle. -/
def rejectHandle (title : String) : Option Handle → Session σ Unit
  | none => pure ()
  | some _ => unsupported "transactions" title

/-- The form of a query that the database runs. -/
def generate (db : Database σ) (query : Query) : Result Generated :=
  db.backend.generate .placeholders query

/-- Generate a query and run it. -/
def run (db : Database σ) (query : Query) (handle : Option Handle) : Session σ (List Row) := do
  let generated ← Session.ofResult (db.generate query)
  db.execute generated handle

end Database

/-- Put assigned keys into the rows that lack the only primary key, in order.
Rows of a table with another number of keys stay as they are. -/
def Table.assignKeys (table : Table) (rows : List Row) (keys : List Json) : List Row :=
  match table.singleKey? with
  | none => rows
  | some key => fill key rows keys
where
  fill (key : String) : List Row → List Json → List Row
    | [], _ => []
    | rows, [] => rows
    | row :: rows, id :: ids =>
      if Fields.has key row then row :: fill key rows (id :: ids)
      else Fields.set key id row :: fill key rows ids

end Polyquery
