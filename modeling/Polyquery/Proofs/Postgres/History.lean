import Polyquery.Proofs.Postgres.Calls

/-!
# Histories of the PostgreSQL client

A history lists calls with the states that they found.  Between two calls the pool may
change in any way, as long as it hands out only connections that nobody holds.  Which
handles are open, and over which connections, is read from what the calls returned and
sent; the client agrees with that reading after every history.
-/

namespace Polyquery.Postgres

/-! ## What a history shows -/

/-- The pool of a client as a call finds it. -/
structure Pool where
  idle : List Nat
  made : Nat
  refusal : Option DatabaseFailure

namespace Link

/-- A client whose pool has changed. -/
def withPool (pool : Pool) (link : Link) : Link :=
  { link with
    idle := pool.idle, made := pool.made, server := { link.server with refusal := pool.refusal } }

/-- The pool hands out only connections that nobody holds. -/
def HandsOutFree (link : Link) : Prop :=
  ∀ connection taken, acquire.run link = (.ok connection, taken) →
    connection ∉ link.held.map Prod.snd

end Link

/-- A call and the state that it finds. -/
structure Event where
  call : Call
  before : Link

namespace Event

def result (event : Event) : Result Answer :=
  (event.call.act.run event.before).1

def after (event : Event) : Link :=
  (event.call.act.run event.before).2

/-- What the call sent. -/
def sent (event : Event) : List Sent :=
  event.after.server.sent.drop event.before.server.sent.length

end Event

/-- The handle that a call returned, with the connection over which it was started. -/
def pin? (result : Result Answer) (messages : List Sent) : Option (Handle × Nat) :=
  match returned? result, messages with
  | some handle, first :: _ => some (handle, first.connection)
  | _, _ => none

/-- The open handles with their connections after a call that returned and sent something.
A start opens the handle that it returns.  A commit or rollback closes its handle, whatever
it returns, and closing the client closes all handles. -/
def Call.pins (call : Call) (result : Result Answer) (messages : List Sent)
    (opened : List (Handle × Nat)) : List (Handle × Nat) :=
  match call with
  | .start _ _ => opened ++ (pin? result messages).toList
  | .commit handle | .rollback handle => opened.filter fun pin => pin.1 ≠ handle
  | .close => []
  | .execute _ _ | .upsert _ _ _ => opened

theorem Call.pins_of_asks {call : Call} (asks : call.asks = true) (result : Result Answer)
    (messages : List Sent) (opened : List (Handle × Nat)) :
    call.pins result messages opened = opened := by
  cases call <;> cases asks <;> rfl

/-- The open handles and their connections after a history. -/
def pins (events : List Event) : List (Handle × Nat) :=
  events.foldl (fun opened event => event.call.pins event.result event.sent opened) []

/-- The handles that the calls of a history returned. -/
def returned (events : List Event) : List Handle :=
  events.filterMap fun event => returned? event.result

/-- The ends of transactions that the calls with a handle sent. -/
def ends (handle : Handle) (events : List Event) : List Sent :=
  events.flatMap fun event =>
    if event.call.handle? = some handle then event.sent.filter fun sent => sent.message.isEnd
    else []

/-- The histories of a client whose server gives some replies.  The client starts with
nothing, and each call finds what the last one left, except for the pool. -/
inductive History (replies : List (Server.Reply ColumnType))
    (inferences : List (Except DatabaseFailure (List ColumnType))) : List Event → Link → Prop
  | fresh : History replies inferences [] (.unconnected (.fresh replies inferences none))
  | call {events link} (history : History replies inferences events link) (call : Call)
      (pool : Pool) (free : (link.withPool pool).HandsOutFree) :
      History replies inferences (events ++ [⟨call, link.withPool pool⟩])
        (Event.after ⟨call, link.withPool pool⟩)

/-- A call, its result and what it sent fit together. -/
theorem Event.effect (event : Event) :
    Effect event.before event.call event.result event.sent event.after := by
  obtain ⟨messages, effect⟩ := exists_effect event.call event.before
  have sent : event.sent = messages := by
    rw [Event.sent, Event.after, effect.sent_eq, List.drop_left]
  rw [sent]
  exact effect

/-- Every call of a history has a history of its own, and finds a pool that hands out only
connections that nobody holds. -/
theorem History.of_prefix {replies : List (Server.Reply ColumnType)}
    {inferences : List (Except DatabaseFailure (List ColumnType))} {events past : List Event}
    {link : Link} {event : Event} (history : History replies inferences events link)
    (earlier : past ++ [event] <+: events) :
    ∃ found pool, History replies inferences past found ∧ event.before = found.withPool pool ∧
      event.before.HandsOutFree := by
  induction history with
  | fresh =>
      have none := List.prefix_nil.mp earlier
      exact absurd none (List.append_ne_nil_of_right_ne_nil _ (List.cons_ne_nil _ _))
  | @call events link history call pool free ih =>
      rcases List.prefix_concat_iff.mp earlier with same | shorter
      · obtain ⟨rfl, last⟩ := List.append_inj' same rfl
        cases last
        exact ⟨link, pool, history, rfl, free⟩
      · exact ih shorter

end Polyquery.Postgres
