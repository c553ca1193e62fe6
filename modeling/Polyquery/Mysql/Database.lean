import Polyquery.Database.Basic
import Polyquery.Mysql.Column

/-!
# MySQL

Statements run one after the other.  The keys of rows that were stored without one
follow each other, starting from the first key that the server reports.
-/

namespace Polyquery.Mysql

/-- A statement as it is sent. -/
structure Sent where
  sql : String
  params : List Value

/-- A server that has not been called. -/
structure Server where
  /-- The replies to statements. -/
  replies : List (Server.Reply ColumnType)
  /-- Why every login fails. -/
  refusal : Option DatabaseFailure

/-- The state of a connection.  The replies that the server is going to give are
part of it. -/
structure Link where
  replies : List (Server.Reply ColumnType)
  closed : Bool
  sent : List Sent

/-- The name in messages. -/
def title : String := Backend.mysql.title

/-- The query for all columns of all tables. -/
def schemaQuery : String :=
  "SELECT table_schema AS table_schema, table_name AS table_name, " ++
    "column_name AS column_name, data_type AS data_type " ++
    "FROM information_schema.columns " ++
    "WHERE table_schema NOT IN ('information_schema', 'performance_schema', 'mysql', 'sys');"

/-- Whether a parameter can be sent: the years of dates have 16 bits. -/
def canSend : Value → Bool
  | .date t => 0 ≤ t.year && t.year < 65536
  | _ => true

/-- A connection from the pool, which must not be closed. -/
def acquire : Session Link Unit := do
  if (← get).closed then throw (.database .poolClosed)

/-- Run a statement.  One with a parameter that cannot be sent is not sent. -/
def runStatement (statement : Statement) : Session Link (Server.Answer ColumnType) := do
  if !statement.values.all canSend then throw (.database .unencodable)
  let link ← get
  set { link with
    replies := link.replies.tail
    sent := link.sent ++ [Sent.mk statement.text statement.values] }
  match link.replies.headD Server.Reply.plain with
  | .ok answer => return answer
  | .error failure => throw (.database failure)

/-- Run statements in order; the rows of all of them. -/
def runStatements (statements : StatementSet) : Session Link (List Row) := do
  acquire
  let rows ← statements.mapM fun statement => do
    return (← runStatement statement).set.toRows ColumnType.read
  return rows.flatten

/-- The keys of a number of rows, from the first one on. -/
def keysFrom (first count : Nat) : List Json :=
  (List.range count).map fun i => .nat (first + i)

/-- Store the rows of a run; the keys that were assigned to them. -/
def storeRun (table : Table) (run : UpsertRun) : Session Link (List Json) := do
  let drafts ← Session.ofResult (run.drafts .mysql table)
  let keys ← drafts.mapM fun draft => do
    let answer ← runStatement (draft.statement .mysql .placeholders)
    if table.singleKey?.isSome && !run.hasKey table then
      return keysFrom answer.assigned run.rows.length
    else return []
  return keys.flatten

/-- Store rows run by run; the rows with the keys that were assigned. -/
def store (table : Table) (rows : List Row) : Session Link (List Row) := do
  acquire
  let keys ← (UpsertRun.partition table rows).mapM (storeRun table)
  return table.assignKeys rows keys.flatten

def schema : Session Link Schema := do
  return Schema.ofCatalogue (← runStatements [⟨schemaQuery, []⟩])

/-- Ask the server whether it is there. -/
def check : StateM Link ConnectionStatus := do
  match ← ExceptT.run (runStatements [⟨"SELECT 1", []⟩]) with
  | .ok _ => return .connected
  | .error (.database failure) => return failure.status
  | .error other => return .failed other.message

/-- Make a first connection, to see whether the server can be reached. -/
def connect (server : Server) : Result Link :=
  match server.refusal with
  | some failure => .error (.connection failure.status)
  | none => .ok ⟨server.replies, false, []⟩

/-- MySQL as a database.  It has no transactions. -/
def database : Database Link where
  backend := .mysql
  title := title
  execute generated handle := do
    Database.rejectHandle title handle
    match generated with
    | .sql statements => runStatements statements
    | .elastic _ => Database.unsupported "Elasticsearch queries" title
  upsert table rows handle := do
    Database.rejectHandle title handle
    store table rows
  update _ _ _ := Database.unsupported "update" title
  putMapping _ := Database.unsupported "put_mapping" title
  schema := schema
  start _ _ := Database.unsupported "start_transaction" title
  commit _ := Database.unsupported "commit_transaction" title
  rollback _ := Database.unsupported "rollback_transaction" title
  check := check
  close := modify fun link => { link with closed := true }

end Polyquery.Mysql
