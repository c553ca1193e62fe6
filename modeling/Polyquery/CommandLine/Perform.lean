import Polyquery.CommandLine.Opened
import Polyquery.CommandLine.Report
import Polyquery.Document.Basic

/-!
# Performing tasks

A task first finds the database it is meant for, then does its work and reports.
Only the tasks that need a database open it; it is closed before they report.
-/

namespace Polyquery.CommandLine

open Output (Report)

/-- What a task comes to, and the database that it opened. -/
structure Performed (α : Type) where
  result : Result α
  opened : Option Opened

namespace Performed

variable {α β : Type}

/-- A result for which no database was opened. -/
def unopened (result : Result α) : Performed α := ⟨result, none⟩

/-- Change the result. -/
def map (f : α → β) (performed : Performed α) : Performed β :=
  ⟨performed.result.map f, performed.opened⟩

end Performed

/-- The query of the document in a file. -/
def loadQuery (surroundings : Surroundings) (path : String) : Result Query :=
  match surroundings.file path with
  | .error cause => .error (.io cause)
  | .ok text =>
    match QueryDocument.ofText? text with
    | some document => document.toQuery
    | none => .error (.config (.invalidDocument path))

/-- Run an action on a target. -/
def onTarget {α : Type} (surroundings : Surroundings) (target : Target)
    (action : {σ : Type} → Database σ → Session σ α) : Performed α :=
  match openTarget surroundings target with
  | .error cause => .unopened (.error cause)
  | .ok opened =>
    let (result, opened) := opened.finish action
    ⟨result, some opened⟩

/-- Show what a document becomes.  Without a backend it is that of the target. -/
def generateTask (surroundings : Surroundings) (target : Target) (path : String)
    (backend : Option Backend) (placeholders : Bool) : Result Report := do
  let backend := backend.getD target.backend
  let query ← loadQuery surroundings path
  let mode := if placeholders then Mode.placeholders else .inline
  return generatedReport backend query placeholders (← backend.generate mode query)

/-- Run a query.  Rows are stored by the action of their own, so that assigned keys
come back. -/
def runQuery {σ : Type} (query : Query) (db : Database σ) : Session σ (List Row) :=
  match query.command with
  | .upsert => db.upsert query.table query.upserts none
  | .select | .delete => db.run query none

/-- Run a document. -/
def runTask (surroundings : Surroundings) (target : Target) (path : String) : Performed Report :=
  match loadQuery surroundings path with
  | .error cause => .unopened (.error cause)
  | .ok query =>
    (onTarget surroundings target fun db => do return (db.title, ← runQuery query db)).map
      fun (title, rows) => rowsReport title query rows

/-- Show the tables and columns, of all databases or of one. -/
def schemaTask (surroundings : Surroundings) (target : Target) (name : Option String) :
    Performed Report :=
  (onTarget surroundings target fun db => do return (db.title, ← db.schema)).map
    fun (title, schema) =>
      schemaReport title (match name with
        | some name => schema.restrict name
        | none => schema)

/-- Check a connection.  Failures to connect are a state like others, but not a
wrong configuration. -/
def statusTask (surroundings : Surroundings) (target : Target) : Performed Report :=
  let report (status : ConnectionStatus) : Report := statusReport target.backend status
  let checked := onTarget surroundings target fun db => ExceptT.lift db.check
  match checked.result with
  | .ok status => ⟨.ok (report status), checked.opened⟩
  | .error (.connection status) => ⟨.ok (report status), checked.opened⟩
  | .error (.config cause) => ⟨.error (.config cause), checked.opened⟩
  | .error other => ⟨.ok (report (.failed other.message)), checked.opened⟩

/-- Perform a task on a target. -/
def Task.perform (surroundings : Surroundings) (target : Target) : Task → Performed Report
  | .generate document backend placeholders =>
    .unopened (generateTask surroundings target document backend placeholders)
  | .run document => runTask surroundings target document
  | .schema name => schemaTask surroundings target name
  | .status => statusTask surroundings target
  | .unknown name => .unopened (.error (.unknownTask name))

/-- The target that a task is meant for: the given address, or what the
configuration file and the environment say. -/
def findTarget (surroundings : Surroundings) : Option String → Result Target
  | some address => Target.ofAddress address
  | none => Target.resolve (surroundings.file configFileName) surroundings.environment

/-- The output of a task and the kind of database it was meant for. -/
structure Answer where
  backend : Backend
  output : String

/-- Do what the arguments ask for. -/
def Invocation.perform (surroundings : Surroundings) (invocation : Invocation) :
    Performed Answer :=
  match findTarget surroundings invocation.database with
  | .error cause => .unopened (.error cause)
  | .ok target =>
    (invocation.task.perform surroundings target).map fun report =>
      ⟨target.backend, report.render invocation.format⟩

end Polyquery.CommandLine
