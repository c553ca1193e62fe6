import Polyquery.Database.Basic

/-!
# Selecting, deleting and transactions

Requests in terms of rows: select columns of the rows that are like an example,
delete the rows that are like an example, and run several actions as one
transaction.
-/

namespace Polyquery.Database

variable {σ : Type}

/-- Which rows are deleted. -/
inductive Deleted where
  | all
  /-- The rows that have the values of an example. -/
  | matching (sample : Row)

/-- The selection of columns of the rows that are like an example.  No column
stands for all columns, and an example without a column of the table for all
rows. -/
def selection (table : Table) (columns : List String) (sample : Option Row) : Result Query := do
  let selected ← (if columns.isEmpty then table.columns else columns).mapM table.column
  let query := (Query.ofTable table).select selected
  match sample.bind table.rowFilter? with
  | some condition => return query.filter condition
  | none => return query

/-- The deletion of rows.  An example has to have a column of the table, because
without a condition everything would be deleted. -/
def deletion (table : Table) : Deleted → Result Query
  | .all => .ok (Query.ofTable table).delete
  | .matching sample =>
    match table.rowFilter? sample with
    | some condition => .ok ((Query.ofTable table).delete.filter condition)
    | none => .error (.generation (.noFilterColumns table.name))

/-- Select columns of the rows that are like an example. -/
def select (db : Database σ) (table : Table) (columns : List String) (sample : Option Row)
    (handle : Option Handle) : Session σ (List Row) := do
  let query ← Session.ofResult (selection table columns sample)
  db.run query handle

/-- Delete rows. -/
def delete (db : Database σ) (table : Table) (deleted : Deleted) (handle : Option Handle) :
    Session σ (List Row) := do
  let query ← Session.ofResult (deletion table deleted)
  db.run query handle

/-- How a transaction ends. -/
inductive Ending where
  | commit
  | rollback
deriving DecidableEq

/-- End a transaction. -/
def finish (db : Database σ) (handle : Handle) : Ending → Session σ Unit
  | .commit => db.commit handle
  | .rollback => db.rollback handle

/-- Run a body inside a transaction.  The body says how the transaction ends; if
it fails, the transaction is rolled back and the failure of the body is the
result. -/
def transaction {α : Type} (db : Database σ) (isolation : Isolation) (readOnly : Bool)
    (body : Handle → Session σ (α × Ending)) : Session σ α := do
  let handle ← db.start isolation readOnly
  match ← (body handle).attempt with
  | .ok (value, ending) =>
    db.finish handle ending
    return value
  | .error failure =>
    let _ ← (db.rollback handle).attempt
    throw failure

end Polyquery.Database
