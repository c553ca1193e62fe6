import Polyquery.Proofs.Postgres.Handles

/-!
# Transactions that no handle owns

While a connection is in a transaction, one open handle is to own it, so that statements
without a handle stay out of the transaction.  All calls keep to this but one: a start whose
first statement is acknowledged and whose second one is refused gives its connection back
inside the transaction.  Histories without such a start are exactly those that keep to it.
-/

namespace Polyquery.Postgres

/-! ## Connections in transactions -/

namespace Link

/-- The server has acknowledged a start over the connection and not yet answered an end. -/
def Dirty (link : Link) (connection : Nat) : Prop :=
  link.server.transaction? connection ≠ none

/-- Every connection that is in a transaction is held. -/
def Covered (link : Link) : Prop :=
  ∀ connection, link.Dirty connection → connection ∈ link.held.map Prod.snd

/-- Every connection that is in a transaction is held by exactly one open handle. -/
def Owned (link : Link) : Prop :=
  ∀ connection, link.Dirty connection → ∃ handle, (handle, connection) ∈ link.held ∧
    ∀ other, (other, connection) ∈ link.held → other = handle

theorem Covered.owned {link : Link} (covered : link.Covered) (tidy : link.Tidy) : link.Owned := by
  intro connection dirty
  obtain ⟨⟨handle, _⟩, mem, rfl⟩ := List.mem_map.mp (covered connection dirty)
  refine ⟨handle, mem, fun other otherMem => ?_⟩
  have same := List.inj_on_of_nodup_map tidy.connections otherMem mem rfl
  exact congrArg Prod.fst same

theorem Owned.covered {link : Link} (owned : link.Owned) : link.Covered := by
  intro connection dirty
  obtain ⟨handle, mem, -⟩ := owned connection dirty
  exact List.mem_map_of_mem mem

end Link

/-- Whether a call is a start that failed when its first statement was acknowledged: only
then it sends the second one. -/
def Call.strands (call : Call) (result : Result Answer) (messages : List Sent) : Bool :=
  match call with
  | .start _ _ => (returned? result).isNone && 2 ≤ messages.length
  | _ => false

theorem Call.strands_eq_true {call : Call} {result : Result Answer} {messages : List Sent} :
    call.strands result messages = true ↔
      (∃ isolation readOnly, call = .start isolation readOnly) ∧ returned? result = none ∧
        2 ≤ messages.length := by
  cases call <;> simp [strands]

namespace Effect

variable {link after : Link} {call : Call} {result : Result Answer} {messages : List Sent}

/-- A call that is no such start leaves every connection that is in a transaction held. -/
theorem covered (effect : Effect link call result messages after) (opens : call ≠ .close)
    (kept : call.strands result messages = false) (tidy : link.Tidy) (covered : link.Covered) :
    after.Covered := by
  cases effect with
  | foreign | unknown | unacquired => exact covered
  | tagged asks carries held answers talk =>
      obtain ⟨-, _, _, rfl⟩ := talk
      exact covered
  | borrowed asks loose acquired answers talk =>
      obtain ⟨-, _, _, rfl⟩ := talk
      obtain ⟨_, _, rfl⟩ := Link.of_acquire_ok acquired
      exact covered
  | unstarted acquired begun =>
      obtain ⟨_, _, rfl⟩ := Link.of_acquire_ok acquired
      cases begun with
      | refused first => exact covered
      | abandoned all both => simp [Call.strands, returned?, both] at kept
  | @started isolation readOnly connection taken messages server acquired begun =>
      obtain ⟨_, _, rfl⟩ := Link.of_acquire_ok acquired
      cases begun with
      | opened all =>
          intro other dirty
          rw [List.map_append, List.mem_append]
          by_cases same : other = connection
          · exact .inr (List.mem_singleton.mpr same)
          · rw [Link.Dirty, Server.transaction?_heard, Server.transaction?_enter,
              if_neg same] at dirty
            exact .inl (covered other dirty)
  | @finished call handle statement connection ended ends held =>
      intro other dirty
      rw [Link.Dirty, Server.transaction?_leave] at dirty
      split_ifs at dirty with same
      · exact absurd rfl dirty
      · obtain ⟨pin, mem, rfl⟩ := List.mem_map.mp (covered other dirty)
        apply List.mem_map_of_mem
        rw [List.mem_filter, decide_eq_true_eq]
        apply And.intro mem
        -- the handle that ends holds another connection
        rintro rfl
        rw [lookup_of_mem tidy.handles mem] at held
        exact same (Option.some.inj held)
  | closed => exact absurd rfl opens

/-- After such a start a connection is in a transaction that nobody holds. -/
theorem not_covered (effect : Effect link call result messages after)
    (strands : call.strands result messages = true) (free : link.HandsOutFree) :
    ¬ after.Covered := by
  obtain ⟨⟨isolation, readOnly, rfl⟩, failed, both⟩ := Call.strands_eq_true.mp strands
  cases effect with
  | foreign foreign => cases foreign
  | unknown native carries => cases carries
  | unacquired => cases both
  | tagged asks => cases asks
  | borrowed asks => cases asks
  | started => cases failed
  | finished ends => cases ends
  | unstarted acquired begun =>
      have unheld := free _ _ acquired
      obtain ⟨_, _, rfl⟩ := Link.of_acquire_ok acquired
      cases begun with
      | refused first =>
          rw [first, List.length_take] at both
          exact absurd (Nat.le_trans both (Nat.min_le_left _ _)) (by decide)
      | abandoned =>
          intro covered
          apply unheld
          apply covered
          rw [Link.Dirty, Server.transaction?_heard, Server.transaction?_enter, if_pos rfl]
          exact Option.some_ne_none _

/-- Statements without a handle stay out of transactions. -/
theorem outside (effect : Effect link call result messages after) (free : link.HandsOutFree)
    (covered : link.Covered) (asks : call.asks = true) (loose : call.handle? = none) :
    ∀ sent ∈ messages, sent.transaction = none := by
  intro sent mem
  cases effect with
  | foreign | unknown | unacquired | closed => cases mem
  | tagged asks carries => cases loose.symm.trans carries
  | borrowed asks loose acquired answers talk =>
      have unheld := free _ _ acquired
      obtain ⟨_, _, rfl⟩ := Link.of_acquire_ok acquired
      rw [(talk.1 sent mem).within]
      by_contra dirty
      exact unheld (covered _ dirty)
  | unstarted | started => cases asks
  | finished ends => cases loose.symm.trans (Call.handle?_of_end? ends)

end Effect

/-! ## Every history -/

variable {replies : List (Server.Reply ColumnType)}
  {inferences : List (Except DatabaseFailure (List ColumnType))} {events : List Event}
  {link : Link}

theorem History.covered (history : History replies inferences events link)
    (opens : ∀ event ∈ events, event.call ≠ .close)
    (kept : ∀ event ∈ events, event.call.strands event.result event.sent = false) :
    link.Covered := by
  induction history with
  | fresh => exact fun connection dirty => absurd rfl dirty
  | @call events link history call pool free ih =>
      rw [List.forall_mem_append, List.forall_mem_singleton] at opens kept
      have covered := ih opens.1 kept.1
      have tidy := (history.agrees.withPool pool).tidy
      exact (Event.effect ⟨call, link.withPool pool⟩).covered opens.2 kept.2 tidy covered

/-- While the client is not closed, the connections that are in a transaction are each held
by exactly one open handle after every call, and statements without a handle stay out of
transactions, exactly if no start of the history failed after its first statement was
acknowledged. -/
theorem History.owned_iff (history : History replies inferences events link)
    (opens : ∀ event ∈ events, event.call ≠ .close) :
    (∀ event ∈ events, event.after.Owned ∧
      (event.call.asks = true → event.call.handle? = none →
        ∀ sent ∈ event.sent, sent.transaction = none)) ↔
      ∀ event ∈ events, event.call.strands event.result event.sent = false := by
  have found {event : Event} (mem : event ∈ events) : ∃ past, past ++ [event] <+: events := by
    obtain ⟨past, future, rfl⟩ := List.append_of_mem mem
    exact ⟨past, future, by rw [List.append_assoc, List.singleton_append]⟩
  constructor
  · intro owned event mem
    obtain ⟨past, earlier⟩ := found mem
    obtain ⟨_, _, -, -, free⟩ := history.of_prefix earlier
    rw [← Bool.not_eq_true]
    intro strands
    exact event.effect.not_covered strands free (owned event mem).1.covered
  · intro kept event mem
    obtain ⟨past, earlier⟩ := found mem
    obtain ⟨link, pool, sofar, before, free⟩ := history.of_prefix earlier
    have inside {other : Event} (inPast : other ∈ past) : other ∈ events :=
      earlier.subset (List.mem_append_left _ inPast)
    have covered : event.before.Covered := by
      rw [before]
      exact sofar.covered (fun other inPast => opens other (inside inPast))
        fun other inPast => kept other (inside inPast)
    have tidy : event.before.Tidy := by
      rw [before]
      exact (sofar.agrees.withPool pool).tidy
    constructor
    · exact (event.effect.covered (opens event mem) (kept event mem) tidy covered).owned
        (event.effect.tidy free tidy)
    · exact event.effect.outside free covered

/-- A transaction beside statements of others; a second start and the end are refused. -/
def steadyCalls : List Call :=
  [.start .serializable false, .execute (.sql [⟨"SELECT 1;", []⟩]) none, .start .standard false,
    .commit 1]

/-- The server refuses the second start and the end. -/
def steadyReplies : List (Server.Reply ColumnType) :=
  [.ok ⟨⟨[], []⟩, 0⟩, .ok ⟨⟨[], []⟩, 0⟩, .ok ⟨⟨[], []⟩, 0⟩, .error (.refused "25006" "no"),
    .error (.refused "40001" "no")]

theorem owned_iff_steadyCalls :
    let client := Link.unconnected (.fresh steadyReplies [] none)
    let events := client.events steadyCalls
    (∀ event ∈ events, event.after.Owned ∧
      (event.call.asks = true → event.call.handle? = none →
        ∀ sent ∈ event.sent, sent.transaction = none)) ∧
      events.map (fun event => event.sent.map Sent.transaction) =
        [[some 1, some 1], [none], [some 2], [some 1]] := by
  intro client events
  have opens : ∀ call ∈ steadyCalls, call ≠ .close := by
    rw [steadyCalls]
    simp
  refine ⟨(History.owned_iff (history_events steadyReplies [] steadyCalls) ?_).mpr ?_, ?_⟩
  · intro event mem
    refine opens event.call ?_
    rw [← client.map_call_events steadyCalls]
    exact List.mem_map_of_mem mem
  · decide
  · decide

/-- A start whose second statement is refused, and a selection without a handle, while four
transactions leave no other connection for it. -/
def strandingCalls : List Call :=
  [.start .standard false, .start .standard false, .start .standard false, .start .standard false,
    .start .serializable false, .execute (.sql [⟨"SELECT * FROM \"movies\";", []⟩]) none]

/-- The server acknowledges every start and refuses to set the level of the last one. -/
def strandingReplies : List (Server.Reply ColumnType) :=
  [.ok ⟨⟨[], []⟩, 0⟩, .ok ⟨⟨[], []⟩, 0⟩, .ok ⟨⟨[], []⟩, 0⟩, .ok ⟨⟨[], []⟩, 0⟩,
    .ok ⟨⟨[], []⟩, 0⟩, .error (.refused "25001" "no")]

/-- The selection runs inside the transaction that nobody holds. -/
theorem not_owned_strandingCalls :
    let client := Link.unconnected (.fresh strandingReplies [] none)
    let events := client.events strandingCalls
    History strandingReplies [] events (client.afterAll strandingCalls) ∧
      events.map (fun event => event.sent.map Sent.transaction) =
        [[some 1], [some 2], [some 3], [some 4], [some 5, some 5], [some 5]] ∧
      (client.afterAll strandingCalls).held = [(1, 1), (2, 2), (3, 3), (4, 4)] ∧
      ¬ ∀ event ∈ events, event.after.Owned ∧
        (event.call.asks = true → event.call.handle? = none →
          ∀ sent ∈ event.sent, sent.transaction = none) := by
  intro client events
  refine ⟨history_events _ _ _, by decide, by decide, fun owned => ?_⟩
  let failed : Event := ⟨.start .serializable false, client.afterAll (strandingCalls.take 4)⟩
  have mem : failed ∈ events := List.mem_of_getElem? (show events[4]? = some failed from rfl)
  have dirty : failed.after.Dirty 5 := by
    rw [Link.Dirty]
    decide
  have unheld : 5 ∉ failed.after.held.map Prod.snd := by decide
  exact unheld ((owned failed mem).1.covered 5 dirty)

end Polyquery.Postgres
