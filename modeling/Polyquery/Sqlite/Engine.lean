import Polyquery.Session
import Polyquery.Sql.Statement
import Polyquery.Sqlite.Evaluation

/-!
# Engines of SQLite

An engine keeps a state and answers statements; a store is one.  A client asks the same of
every engine.  It writes down what it has asked and what it was answered.
-/

namespace Polyquery.Sqlite

/-- The rows of a statement, or why it was refused. -/
abbrev Answer := Except DatabaseFailure (List Row)

/-- An engine with states in `σ`. -/
structure Engine (σ : Type) where
  /-- Run a statement with the cells of its parameters. -/
  run : String → List Cell → σ → Answer × σ
  /-- The tables that are not internal, with the names and types of their columns. -/
  tables : σ → Except DatabaseFailure (List (String × List (String × String)))

/-- The failure of a refused statement. -/
def Fault.failure (fault : Fault) : DatabaseFailure :=
  .engine fault.message

/-- A store as an engine.  A refused statement leaves it as it is. -/
def Store.engine : Engine Store where
  run text params store :=
    match store.run text params with
    | .ok outcome => (.ok outcome.rows, outcome.store)
    | .error fault => (.error fault.failure, store)
  tables store := do
    let tables ← store.allTables.mapError Fault.failure
    let shown := tables.filter fun table => !isHidden table.name
    return shown.map fun table =>
      (table.name, table.columns.map fun column => (column.name, column.type))

/-- A statement that was sent, with the answer to it. -/
structure Exchange where
  statement : Statement
  answer : Answer

/-- A client of an engine. -/
structure Client (σ : Type) where
  /-- The name of the database in schemas: where it is stored. -/
  name : String
  /-- The state of the engine. -/
  store : σ
  closed : Bool
  exchanges : List Exchange

/-- A client of a store. -/
abbrev Link := Client Store

/-- A connection to a store. -/
def Link.to (name : String) (store : Store) : Link := ⟨name, store, false, []⟩

variable {σ : Type}

/-- A connection from the pool, which must not be closed. -/
def acquire : Session (Client σ) Unit := do
  if (← get).closed then throw (.database .poolClosed)

/-- An answer that has to be there. -/
def demand {α : Type} (answer : Except DatabaseFailure α) : Session (Client σ) α :=
  Session.ofResult (answer.mapError Error.database)

namespace Engine

/-- Run a statement; its rows. -/
def runStatement (engine : Engine σ) (statement : Statement) :
    Session (Client σ) (List Row) := do
  let client ← get
  let (answer, store) :=
    engine.run statement.text (statement.values.map Cell.ofValue) client.store
  set { client with store := store, exchanges := client.exchanges ++ [Exchange.mk statement answer] }
  demand answer

/-- Run statements in order; the rows of all of them. -/
def runStatements (engine : Engine σ) (statements : StatementSet) :
    Session (Client σ) (List Row) := do
  acquire
  let rows ← statements.mapM engine.runStatement
  return rows.flatten

end Engine

/-- The whole number in the first row of an answer, whose only column is `id`. -/
def rowId : List Row → Except DatabaseFailure Int
  | [] => .error .noRow
  | row :: _ =>
    match Fields.find? "id" row with
    | some (.num (.int n)) => .ok n
    | _ => .error .undecodable

end Polyquery.Sqlite
