import Polyquery.Database.Basic
import Polyquery.Postgres.Cast
import Polyquery.Postgres.Link

/-!
# PostgreSQL

Statements of one call run in order on one connection.  A transaction keeps its
connection from the start to the end, and only statements with its handle use it.
-/

namespace Polyquery.Postgres

/-- The name in messages. -/
def title : String := Backend.postgres.title

/-- The query for all columns of all tables. -/
def schemaQuery : String :=
  "SELECT table_schema::text AS table_schema, table_name::text AS table_name, " ++
    "column_name::text AS column_name, data_type::text AS data_type " ++
    "FROM information_schema.columns " ++
    "WHERE table_schema NOT IN ('information_schema', 'pg_catalog');"

/-- A parameter as it arrives: dates have microseconds. -/
def travelled : Value → Value
  | .date t => .date (Timestamp.ofMicros t.micros)
  | v => v

def isText : Value → Bool
  | .str _ => true
  | _ => false

/-- The text of a statement with casts for the types that the server tells. -/
def typed (connection : Nat) (statement : Statement) : Session Link String := do
  if !statement.values.any isText then return statement.text
  let declared := statement.values.map fun v => (Declared.ofValue v).name
  let types ← Link.call fun server =>
    server.infer connection (inferenceText statement.text statement.values) declared
  let names := statement.values.zipIdx.map fun (_, i) => ((types[i]?).getD .text).castName
  return withCasts (textCasts 1 names statement.values) statement.text

/-- Run a statement. -/
def runStatement (connection : Nat) (statement : Statement) : Session Link (List Row) := do
  let text ← typed connection statement
  let answer ← Link.call fun server =>
    server.run connection text (statement.values.map travelled)
  return answer.set.toRows ColumnType.read

/-- Run statements in order; the rows of all of them. -/
def runStatements (connection : Nat) (statements : StatementSet) : Session Link (List Row) := do
  return (← statements.mapM (runStatement connection)).flatten

/-- Store the rows of a run; the keys that were assigned to them. -/
def storeRun (connection : Nat) (table : Table) (run : UpsertRun) : Session Link (List Json) := do
  let drafts ← Session.ofResult (run.drafts .postgres table)
  let returned ← runStatements connection (drafts.map (Draft.statement .postgres .placeholders))
  if table.singleKey?.isSome && !run.hasKey table then
    return returned.map fun row => (Fields.find? "insertid" row).getD .null
  else return []

/-- Store rows run by run; the keys that were assigned. -/
def storeRows (table : Table) (rows : List Row) (connection : Nat) : Session Link (List Json) := do
  return (← (UpsertRun.partition table rows).mapM (storeRun connection table)).flatten

/-- Run the statements that begin a transaction. -/
def begin (connection : Nat) (isolation : Isolation) (readOnly : Bool) : Session Link Unit := do
  match Transaction.start isolation readOnly with
  | [] => return ()
  | first :: rest =>
    let _ ← Link.call fun server => server.plain connection .opens first.text
    for statement in rest do
      let _ ← Link.call fun server => server.plain connection .inside statement.text

/-- Start a transaction.  If it cannot be started, its connection goes back as it
is. -/
def start (isolation : Isolation) (readOnly : Bool) : Session Link Handle := do
  let connection ← Link.acquire
  match ← (begin connection isolation readOnly).attempt with
  | .ok () =>
    let link ← get
    let handle := link.given + 1
    set { link with given := handle, held := link.held ++ [(handle, connection)] }
    return handle
  | .error failure =>
    Link.giveBack connection
    throw failure

/-- End a transaction.  Its handle is gone whatever the server says. -/
def finish (handle : Handle) (statement : Statement) : Session Link Unit := do
  let connection ← Link.pinned handle
  modify fun link => { link with held := link.held.filter fun entry => entry.1 ≠ handle }
  let result ← (Link.call fun server => server.plain connection .closes statement.text).attempt
  Link.giveBack connection
  let _ ← Session.ofResult result

def schema : Session Link Schema := do
  let rows ← Link.borrowing fun connection => runStatement connection ⟨schemaQuery, []⟩
  return Schema.ofCatalogue rows

/-- Ask the server whether it is there. -/
def check : StateM Link ConnectionStatus := do
  let ask := Link.borrowing fun connection => runStatement connection ⟨"SELECT 1", []⟩
  match ← ExceptT.run ask with
  | .ok _ => return .connected
  | .error (.database failure) => return failure.status
  | .error other => return .failed other.message

/-- Close the pool.  Open transactions lose their connections. -/
def close : Session Link Unit :=
  modify fun link => { link with idle := [], held := [], closed := true }

/-- Make a first connection, to see whether the server can be reached. -/
def connect (server : Server) : Result Link :=
  match (Link.borrowing fun _ => pure ()).run (Link.unconnected server) with
  | (.ok _, link) => .ok link
  | (.error (.database failure), _) => .error (.connection failure.status)
  | (.error other, _) => .error other

/-- PostgreSQL as a database. -/
def database : Database Link where
  backend := .postgres
  title := title
  execute generated handle :=
    match generated with
    | .sql statements => Link.on handle fun connection => runStatements connection statements
    | .elastic _ => Database.unsupported "Elasticsearch queries" title
  upsert table rows handle := do
    return table.assignKeys rows (← Link.on handle (storeRows table rows))
  update _ _ _ := Database.unsupported "update" title
  putMapping _ := Database.unsupported "put_mapping" title
  schema := schema
  start := start
  commit handle := finish handle Transaction.commit
  rollback handle := finish handle Transaction.rollback
  check := check
  close := close

end Polyquery.Postgres
