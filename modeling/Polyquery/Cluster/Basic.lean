import Polyquery.Cluster.Document
import Polyquery.Database.Basic
import Polyquery.Text.Blank
import Polyquery.Url.Reader

/-!
# Clusters

A cluster is reached through requests to paths below its address.  Single
documents are stored by requests of their own, larger numbers by one request.
Documents are deleted by searching for them: if the number of hits is not limited,
search and deletion are repeated until no new document is found.
-/

namespace Polyquery

/-- A cluster by its address. -/
structure Cluster where
  url : Url

namespace Cluster

open Http (Link Method Payload)

/-- The cluster at an address. -/
def ofAddress (address : String) : Result Cluster :=
  match Url.ofText address with
  | .error cause => .error (.config (.invalidClusterUrl address (some cause.message)))
  | .ok url =>
    if url.canBeBase then .ok ⟨url⟩ else .error (.config (.invalidClusterUrl address none))

/-- The URL of a path below the address. -/
def endpoint (cluster : Cluster) (segments : List String) : Url :=
  cluster.url.below (segments.map String.toList)

/-- Send a request.  A reply without success is an error; a blank reply counts as
null. -/
def send (method : Method) (url : Url) (payload : Option Payload) : Session Link Json := do
  let reply ← Link.exchange ⟨method, url, payload⟩
  if !reply.isSuccess then throw (.elastic reply.status reply.text)
  if reply.text.toList.all Text.isBlank then return .null
  match Json.ofText? reply.text with
  | some value => return value
  | none => throw .json

/-- Search an index. -/
def search (cluster : Cluster) (request : Search.Request) : Session Link Json :=
  let parameter (name : String) (value : Option Nat) : List (String × String) :=
    value.toList.map fun n => (name, toString n)
  let url := (cluster.endpoint [request.index, "_search"]).withParameters
    (parameter "from" request.start ++ parameter "size" request.size)
  send .post url (some (.json request.body.toJson))

/-- Send lines.  With `refresh` the changes are visible when the reply comes. -/
def bulk (cluster : Cluster) (body : String) (refresh : Bool) : Session Link Json := do
  let url := (cluster.endpoint ["_bulk"]).withParameters
    (if refresh then [("refresh", "true")] else [])
  let reply ← send .post url (some (.lines body))
  match bulkFailure? reply with
  | some failure => throw failure
  | none => return reply

/-- The largest number of documents that are written one by one. -/
def singleWrites : Nat := 2

/-- Write one document; the id that the cluster reports. -/
def writeOne (cluster : Cluster) (table : Table) (action : Action) (row : Row) :
    Session Link Json := do
  let reply ← match action, table.documentId? row with
    | .index, some id =>
      send .put (cluster.endpoint [table.database, "_doc", id]) (some (.json (.obj row)))
    | .index, none =>
      send .post (cluster.endpoint [table.database, "_doc"]) (some (.json (.obj row)))
    | .update, some id =>
      send .post (cluster.endpoint [table.database, "_update", id]) (some (.json (changes row)))
    | .delete, some id => send .delete (cluster.endpoint [table.database, "_doc", id]) none
    | _, none => throw (missingKey table action)
  return reply.field "_id"

/-- Write documents; the ids that the cluster reports. -/
def write (cluster : Cluster) (table : Table) (action : Action) (rows : List Row) :
    Session Link (List Json) :=
  if rows.length ≤ singleWrites then rows.mapM (cluster.writeOne table action)
  else do
    let body ← Session.ofResult (bulkBody table action rows)
    return bulkIds action (← cluster.bulk body false)

def createIndex (cluster : Cluster) (index : String) : Session Link Json :=
  send .put (cluster.endpoint [index]) none

def deleteIndex (cluster : Cluster) (index : String) : Session Link Json :=
  send .delete (cluster.endpoint [index]) none

/-- Make what was written visible to searches. -/
def refresh (cluster : Cluster) (index : String) : Session Link Json :=
  send .post (cluster.endpoint [index, "_refresh"]) none

def health (cluster : Cluster) : Session Link Json :=
  send .get (cluster.endpoint ["_cluster", "health"]) none

/-- Delete what a search finds; the documents that were found.  `rounds` limits
how often the search is repeated. -/
def deleteHits (cluster : Cluster) (request : Search.Request) :
    (rounds : Nat) → (seen : List String) → Session Link (List Row)
  | 0, _ => return []
  | rounds + 1, seen => do
    let found := unseen seen (hits (← cluster.search request))
    if found.isEmpty then return []
    let _ ← cluster.bulk (String.join (found.map deletionLine)) request.size.isNone
    if request.size.isSome then return found
    return found ++ (← cluster.deleteHits request rounds (seen ++ found.map place))

/-- Delete what a search finds.  Every round uses up a reply, and a server whose
replies are used up finds nothing. -/
def deleteFound (cluster : Cluster) (request : Search.Request) : Session Link (List Row) := do
  cluster.deleteHits request ((← get).replies.length + 1) []

/-- The searches in an envelope. -/
def searches (envelope : Search.Envelope) : Result (List Search.Request) :=
  envelope.params.mapM fun
    | .search request => .ok request
    | .row _ => .error (.generation (.carriesDocument envelope.command.name))

/-- The rows in an envelope. -/
def rows (envelope : Search.Envelope) : Result (List Row) :=
  envelope.params.mapM fun
    | .row row => .ok row
    | .search _ => .error (.generation .carriesSearch)

/-- The table that an envelope is about. -/
def table (envelope : Search.Envelope) : Table :=
  (Table.ofColumns envelope.table envelope.primaryKeys envelope.fields).withDatabase envelope.index

/-- The ids of the rows that lack the first primary key. -/
def assignedIds (table : Table) (rows : List Row) (ids : List Json) : List Json :=
  match table.primaryKeys with
  | [] => []
  | key :: _ => ((rows.zip ids).filter fun entry => !Fields.has key entry.1).map Prod.snd

/-- Store rows; the rows with the ids that the cluster assigned. -/
def upsert (cluster : Cluster) (table : Table) (rows : List Row) : Session Link (List Row) := do
  let ids ← cluster.write table .index rows
  return table.assignKeys rows (assignedIds table rows ids)

/-- Run what an envelope says. -/
def execute (cluster : Cluster) (envelope : Search.Envelope) : Session Link (List Row) := do
  match envelope.command with
  | .select =>
    let found ← (← Session.ofResult (searches envelope)).mapM fun request => do
      return hits (← cluster.search request)
    return found.flatten
  | .delete =>
    let found ← (← Session.ofResult (searches envelope)).mapM cluster.deleteFound
    return found.flatten
  | .upsert => cluster.upsert (table envelope) (← Session.ofResult (rows envelope))

/-- The mappings of all indexes. -/
def schema (cluster : Cluster) : Session Link Schema := do
  return Schema.ofMappings (← send .get (cluster.endpoint ["_mapping"]) none)

/-- Create the index of a table if there is none, and set its mapping. -/
def putMapping (cluster : Cluster) (table : Table) : Session Link Json := do
  let schema ← cluster.schema
  if !(Fields.has table.database schema.databases) then
    let _ ← cluster.createIndex table.database
  let mapping := table.mapping.getD (.obj [("properties", .obj [])])
  send .put (cluster.endpoint [table.database, "_mapping"]) (some (.json mapping))

/-- Ask the cluster whether it is there. -/
def check (cluster : Cluster) : StateM Link ConnectionStatus := do
  match ← ExceptT.run (Link.exchange ⟨.get, cluster.url, none⟩) with
  | .ok reply =>
    if reply.isSuccess then return .connected
    else if reply.status = 401 || reply.status = 403 then return .authFailed
    else return .failed ("HTTP " ++ reply.statusText)
  | .error (.http shown) => return .failed shown
  | .error other => return .failed other.message

/-- The name in messages. -/
def title : String := Backend.elastic.title

/-- A cluster as a database.  It has no transactions. -/
def database (cluster : Cluster) : Database Link where
  backend := .elastic
  title := title
  execute generated handle := do
    Database.rejectHandle title handle
    match generated with
    | .elastic envelopes => return (← envelopes.mapM cluster.execute).flatten
    | .sql _ => Database.unsupported "SQL statements" title
  upsert table rows handle := do
    Database.rejectHandle title handle
    cluster.upsert table rows
  update table rows handle := do
    Database.rejectHandle title handle
    let _ ← cluster.write table .update rows
    return rows
  putMapping := cluster.putMapping
  schema := cluster.schema
  start _ _ := Database.unsupported "start_transaction" title
  commit _ := Database.unsupported "commit_transaction" title
  rollback _ := Database.unsupported "rollback_transaction" title
  check := cluster.check
  close := pure ()

end Cluster

end Polyquery
