import Polyquery.Http.Basic
import Polyquery.Table

/-!
# Documents of a cluster

What is sent to store, change and delete documents, and what the replies say
about them.  Several documents travel in one request as lines: for each a line
that says what to do, and a line with the document.
-/

namespace Polyquery.Cluster

/-- What happens to a document. -/
inductive Action where
  /-- Create or replace it. -/
  | index
  /-- Change fields of it, or create it. -/
  | update
  | delete
deriving DecidableEq

def Action.name : Action → String
  | index => "index"
  | update => "update"
  | delete => "delete"

/-- A document that has to be addressed carries no key. -/
def missingKey (table : Table) (action : Action) : Error :=
  .generation (.keyRequired action.name table.name)

/-- A change of fields as it is sent. -/
def changes (row : Row) : Json :=
  .obj [("doc", .obj row), ("doc_as_upsert", .bool true)]

/-- A value on a line of its own. -/
def line (value : Json) : String :=
  value.compact ++ "\n"

/-- The line with a document. -/
def documentLine (action : Action) (row : Row) : String :=
  match action with
  | .index => line (.obj row)
  | .update => line (changes row)
  | .delete => ""

/-- The line that says what to do with the document of an index.  Only a new
document may be without an id. -/
def actionLine (table : Table) (action : Action) (id : Option String) : Result String :=
  let inIndex : List (String × Json) := [("_index", .str table.database)]
  match id, action with
  | some id, action => .ok (line (.obj [(action.name, .obj (("_id", .str id) :: inIndex))]))
  | none, .index => .ok (line (.obj [(Action.index.name, .obj inIndex)]))
  | none, action => .error (missingKey table action)

/-- The lines for a list of rows. -/
def bulkBody (table : Table) (action : Action) (rows : List Row) : Result String := do
  let lines ← rows.mapM fun row => do
    return (← actionLine table action (table.documentId? row)) ++ documentLine action row
  return String.join lines

/-- The ids that a reply reports, in the order of the documents. -/
def bulkIds (action : Action) (reply : Json) : List Json :=
  ((reply.field "items").asArray?.getD []).map fun item => (item.field action.name).field "_id"

/-- The part of an item of a reply that says how it went. -/
def outcomeOf (item : Json) : Option Json := do
  return (← (← item.asObject?).head?).2

/-- The status of an item that failed. -/
def statusOf (failed : Json) : Nat :=
  match (failed.field "status").asNat? with
  | some status => if status < 65536 then status else 500
  | none => 500

/-- The first failure in a reply that reports failures. -/
def bulkFailure? (reply : Json) : Option Error := do
  if (reply.field "errors").asBool? ≠ some true then none
  let items ← (reply.field "items").asArray?
  let failed ← (items.filterMap outcomeOf).find? fun outcome => (outcome.field? "error").isSome
  some (.elastic (statusOf failed) (failed.field "error").compact)

/-- The documents that a search found. -/
def hits (reply : Json) : List Row :=
  (((reply.field "hits").field "hits").asArray?.getD []).filterMap Json.asObject?

/-- Where a found document is: index and id, as JSON. -/
def place (hit : Row) : String :=
  let part (name : String) : String := ((Fields.find? name hit).map Json.compact).getD ""
  part "_index" ++ "/" ++ part "_id"

/-- The line that deletes a found document. -/
def deletionLine (hit : Row) : String :=
  let part (name : String) : Json := (Fields.find? name hit).getD .null
  line (.obj [("delete", .obj [("_id", part "_id"), ("_index", part "_index")])])

/-- The documents that are not among those at known places, each once. -/
def unseen (seen : List String) : List Row → List Row
  | [] => []
  | hit :: rest =>
    if seen.contains (place hit) then unseen seen rest
    else hit :: unseen (place hit :: seen) rest

end Polyquery.Cluster
