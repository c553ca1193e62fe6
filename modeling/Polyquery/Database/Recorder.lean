import Polyquery.Database.Basic

/-!
# A recording database

A database that keeps nothing but a list of the calls made to it.  Its answers
are settled beforehand, and it can be made to fail at calls of a kind.
-/

namespace Polyquery

/-- A call of an action of a database. -/
inductive Call where
  | execute (generated : Generated) (handle : Option Handle)
  | upsert (table : String) (rows : List Row) (handle : Option Handle)
  | schema
  | start (isolation : Isolation) (readOnly : Bool)
  | commit (handle : Handle)
  | rollback (handle : Handle)
  | close

/-- The name of the action that is called. -/
def Call.name : Call → String
  | execute .. => "execute"
  | upsert .. => "upsert"
  | schema => "schema"
  | start .. => "start"
  | commit _ => "commit"
  | rollback _ => "rollback"
  | close => "destroy"

/-- What a recording database answers. -/
structure Recorder where
  backend : Backend
  /-- The rows that every generated query gives. -/
  rows : List Row
  /-- The names of the actions that fail. -/
  failing : List String
  transactions : Bool

namespace Recorder

/-- The name in messages. -/
def title : String := "Recorder"

/-- The handle of every transaction. -/
def handle : Handle := 9

/-- Write a call down, and fail if calls of its name fail. -/
def record (recorder : Recorder) (call : Call) : Session (List Call) Unit := do
  modify (· ++ [call])
  if recorder.failing.contains call.name then throw (.transaction (.stepFailed call.name))

/-- The recording database.  Handles are refused after the call is written
down. -/
def database (recorder : Recorder) : Database (List Call) where
  backend := recorder.backend
  title := title
  execute generated handle := do
    recorder.record (.execute generated handle)
    if !recorder.transactions then Database.rejectHandle title handle
    return recorder.rows
  upsert table rows handle := do
    recorder.record (.upsert table.name rows handle)
    return rows
  update _ _ _ := Database.unsupported "update" title
  putMapping _ := Database.unsupported "put_mapping" title
  schema := do
    recorder.record .schema
    return Schema.ofCatalogue recorder.rows
  start isolation readOnly := do
    recorder.record (.start isolation readOnly)
    if recorder.transactions then return handle
    Database.unsupported "start_transaction" title
  commit handle := recorder.record (.commit handle)
  rollback handle := recorder.record (.rollback handle)
  check := pure .connected
  close := recorder.record .close

end Recorder

end Polyquery
