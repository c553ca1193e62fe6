import Polyquery.Cluster.Basic
import Polyquery.Config.File
import Polyquery.Mysql.Database
import Polyquery.Postgres.Database
import Polyquery.Sqlite.Database

/-!
# Opened databases

The surroundings of a task are what it can read and reach.  A target is opened in
them; the opened database is one of four kinds, each with the state of its
connection.
-/

namespace Polyquery.CommandLine

/-- What a task can read and reach. -/
structure Surroundings where
  /-- The text of a file. -/
  file : String → Except FileError String
  /-- A variable of the environment. -/
  environment : String → Option String
  /-- The link to the server at an address. -/
  http : Url → Http.Link
  postgres : Postgres.Server
  mysql : Mysql.Server
  /-- The store in a file, which is created if it does not exist. -/
  sqlite : String → Except Sqlite.Fault Sqlite.Store

/-- A database with the state of its connection. -/
inductive Opened where
  | cluster (cluster : Cluster) (link : Http.Link)
  | postgres (link : Postgres.Link)
  | mysql (link : Mysql.Link)
  | sqlite (link : Sqlite.Link)

namespace Opened

/-- Run an action on the database, whatever its kind. -/
def run {α : Type} (action : {σ : Type} → Database σ → Session σ α) :
    Opened → Result α × Opened
  | cluster c link =>
    let (result, link) := (action c.database).run link
    (result, cluster c link)
  | postgres link =>
    let (result, link) := (action Postgres.database).run link
    (result, postgres link)
  | mysql link =>
    let (result, link) := (action Mysql.database).run link
    (result, mysql link)
  | sqlite link =>
    let (result, link) := (action Sqlite.database).run link
    (result, sqlite link)

/-- Run an action and give the connection up. -/
def finish {α : Type} (opened : Opened)
    (action : {σ : Type} → Database σ → Session σ α) : Result α × Opened :=
  let (result, opened) := opened.run action
  (result, (opened.run fun db => db.close).2)

end Opened

/-- The address of a SQL server, if it can be used. -/
def serverAddress (server : ServerSettings) (protocol : ServerSettings.Protocol) : Result Unit := do
  match ServerSettings.checkAddress (← server.url protocol) with
  | .ok _ => return
  | .error failure => throw (.connection failure.status)

/-- Open a target. -/
def openTarget (surroundings : Surroundings) : Target → Result Opened
  | .postgres server => do
    serverAddress server .postgres
    return .postgres (← Postgres.connect surroundings.postgres)
  | .mysql server => do
    serverAddress server .mysql
    return .mysql (← Mysql.connect surroundings.mysql)
  | .file path =>
    match surroundings.sqlite path with
    | .ok store => .ok (.sqlite (.to path store))
    | .error fault => .error (.database fault.failure)
  | .memory => .ok (.sqlite (.to Sqlite.memoryName Sqlite.Store.empty))
  | .cluster address => do
    let cluster ← Cluster.ofAddress address
    return .cluster cluster (surroundings.http cluster.url)

end Polyquery.CommandLine
