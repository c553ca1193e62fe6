import Polyquery.Proofs.Cluster.Upsert

/-!
# Calls

A document that is written alone has a request of its own.  Before the path is encoded, a
request is a call: a method, the segments of the path and a payload.
-/

namespace Polyquery

open Http (Link Method Payload Reply Request)

/-- What the text of a reply is taken for; none if it is not JSON. -/
def Http.Reply.value? (reply : Reply) : Option Json :=
  if reply.text.toList.all Text.isBlank then some .null else Json.ofText? reply.text

namespace Cluster

variable {link : Link} {reply : Reply} {value : Json}

/-- A request that succeeds gives what its reply is taken for. -/
theorem run_send {method : Method} {url : Url} {payload : Option Payload}
    (sends : Link.canSend url = true) (reachable : link.reachable = true)
    (replied : link.replies.headD Reply.plain = reply) (success : reply.isSuccess = true)
    (read : reply.value? = some value) :
    (send method url payload).run link = (.ok value, { link with
      replies := link.replies.tail
      sent := link.sent ++ [⟨method, url, payload⟩] }) := by
  rw [send, Session.run_bind, Link.run_exchange sends reachable, replied]
  simp only [success, Bool.not_true, Bool.false_eq_true, if_false]
  unfold Http.Reply.value? at read
  split at read
  · rename_i blank
    rw [if_pos blank, ← Option.some.inj read]
    rfl
  · rename_i written
    rw [if_neg written, read]
    rfl

/-- A reply that can be read, to a request that succeeded. -/
def Succeeds (reply : Reply) : Prop :=
  reply.isSuccess = true ∧ reply.value? ≠ none

theorem value?_plain : Reply.plain.value? = some (.obj []) := by
  rfl

theorem succeeds_plain : Succeeds Reply.plain :=
  ⟨by decide, by simp [value?_plain]⟩

/-- A request whose path is not encoded yet. -/
structure Call where
  method : Method
  segments : List String
  payload : Option Payload

namespace Call

/-- The request of a call. -/
def request (cluster : Cluster) (call : Call) : Request :=
  ⟨call.method, cluster.endpoint call.segments, call.payload⟩

/-- Send the request of a call. -/
def send (cluster : Cluster) (call : Call) : Session Link Json :=
  Cluster.send call.method (cluster.endpoint call.segments) call.payload

/-- The call that writes a row alone.  Only a new document may be without an id. -/
def ofRow? (table : Table) (action : Action) (row : Row) : Option Call :=
  match action, table.documentId? row with
  | .index, some id => some ⟨.put, [table.database, "_doc", id], some (.json (.obj row))⟩
  | .index, none => some ⟨.post, [table.database, "_doc"], some (.json (.obj row))⟩
  | .update, some id =>
    some ⟨.post, [table.database, "_update", id], some (.json (changes row))⟩
  | .delete, some id => some ⟨.delete, [table.database, "_doc", id], none⟩
  | _, none => none

variable {table : Table} {action : Action} {row : Row}

/-- A call that succeeds gives what its reply is taken for. -/
theorem run_send {cluster : Cluster} (call : Call) (sends : Link.canSend cluster.url = true)
    (reachable : link.reachable = true) (replied : link.replies.headD Reply.plain = reply)
    (success : reply.isSuccess = true) (read : reply.value? = some value) :
    (call.send cluster).run link = (.ok value,
      { link with replies := link.replies.tail, sent := link.sent ++ [call.request cluster] }) :=
  Cluster.run_send (by rw [canSend_endpoint, sends]) reachable replied success read

theorem ofRow?_eq_none_iff :
    ofRow? table action row = none ↔ action ≠ .index ∧ table.documentId? row = none := by
  cases action <;> cases found : table.documentId? row <;> simp [ofRow?, found]

end Call

/-- A row is written by its call, or refused. -/
theorem writeOne_eq (cluster : Cluster) (table : Table) (action : Action) (row : Row) :
    cluster.writeOne table action row =
      match Call.ofRow? table action row with
      | some call => Json.field "_id" <$> call.send cluster
      | none => throw (missingKey table action) := by
  cases action <;> cases found : table.documentId? row <;>
    simp only [writeOne, Call.ofRow?, found] <;> rfl

end Cluster

end Polyquery
