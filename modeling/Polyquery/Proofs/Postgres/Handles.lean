import Mathlib.Data.List.Nodup
import Polyquery.Proofs.Postgres.Pool

/-!
# Handles of the PostgreSQL client

Every handle that is given out is new, and it holds the connection over which its
transaction was started until the transaction ends or the client is closed.  Until then no
other call speaks over that connection.  What one call does to the handles is derived from
its effect; that the client knows what its history tells follows call by call.
-/

namespace Polyquery.Postgres

/-! ## What a call keeps -/

/-- The handles of a client are different ones that it gave out, and so are their
connections. -/
structure Link.Tidy (link : Link) : Prop where
  handles : (link.held.map Prod.fst).Nodup
  given : ∀ handle ∈ link.held.map Prod.fst, handle ≤ link.given
  connections : (link.held.map Prod.snd).Nodup

/-- Under different keys, every entry is the one that is found. -/
theorem lookup_of_mem {entries : List (Handle × Nat)} (different : (entries.map Prod.fst).Nodup)
    {handle : Handle} {connection : Nat} (mem : (handle, connection) ∈ entries) :
    entries.lookup handle = some connection := by
  induction entries with
  | nil => cases mem
  | cons entry rest ih =>
      obtain ⟨absent, others⟩ := List.nodup_cons.mp different
      rcases List.mem_cons.mp mem with rfl | inRest
      · rw [List.lookup_cons, beq_self_eq_true]
      · have other : (handle == entry.1) = false := by
          rw [beq_eq_false_iff_ne]
          rintro rfl
          exact absent (List.mem_map.mpr ⟨_, inRest, rfl⟩)
        rw [List.lookup_cons, other]
        exact ih others inRest

theorem lookup_eq_none {entries : List (Handle × Nat)} {handle : Handle} :
    entries.lookup handle = none ↔ handle ∉ entries.map Prod.fst := by
  rw [List.lookup_eq_none_iff, List.mem_map]
  constructor
  · rintro none ⟨entry, mem, rfl⟩
    simpa using none entry mem
  · intro none entry mem
    rw [bne_iff_ne]
    rintro rfl
    exact none ⟨entry, mem, rfl⟩

namespace Effect

variable {link after : Link} {call : Call} {result : Result Answer} {messages : List Sent}

/-- The client holds what the call, its result and its messages tell. -/
theorem held_eq (effect : Effect link call result messages after) :
    after.held = call.pins result messages link.held := by
  cases effect with
  | foreign foreign => exact (Call.pins_of_asks (Call.asks_of_foreign foreign) _ _ _).symm
  | unknown native carries unheld =>
      have kept {handle : Handle} (unheld : link.held.lookup handle = none) :
          link.held = link.held.filter fun pin => pin.1 ≠ handle := by
        symm
        rw [List.filter_eq_self]
        intro pin mem
        rw [decide_eq_true_eq]
        rintro rfl
        exact lookup_eq_none.mp unheld (List.mem_map_of_mem mem)
      cases call <;> cases carries
      · rfl
      · rfl
      · exact kept unheld
      · exact kept unheld
  | unacquired loose opens refused =>
      cases call with
      | close => exact absurd rfl opens
      | start => exact (List.append_nil _).symm
      | execute | upsert => rfl
      | commit | rollback => cases loose
  | tagged asks carries held answers talk =>
      obtain ⟨-, _, _, rfl⟩ := talk
      exact (Call.pins_of_asks asks _ _ _).symm
  | borrowed asks loose acquired answers talk =>
      obtain ⟨-, _, _, rfl⟩ := talk
      obtain ⟨_, _, rfl⟩ := Link.of_acquire_ok acquired
      exact (Call.pins_of_asks asks _ _ _).symm
  | unstarted acquired begun =>
      obtain ⟨_, _, rfl⟩ := Link.of_acquire_ok acquired
      exact (List.append_nil _).symm
  | @started isolation readOnly connection taken messages server acquired begun =>
      obtain ⟨_, _, rfl⟩ := Link.of_acquire_ok acquired
      obtain ⟨first, rest, rfl⟩ := List.exists_cons_of_ne_nil begun.ne_nil
      rw [← (begun.mem_messages List.mem_cons_self).1]
      rfl
  | finished ends held =>
      cases call <;> cases ends <;> rfl
  | closed => rfl

/-- A call either gives out the next handle, for a connection that the pool hands out, or
it gives out none and holds at most what was held. -/
theorem held_cases (effect : Effect link call result messages after) :
    (∃ connection taken, Link.acquire.run link = (.ok connection, taken) ∧
      returned? result = some (link.given + 1) ∧ after.given = link.given + 1 ∧
      after.held = link.held ++ [(link.given + 1, connection)]) ∨
    returned? result = none ∧ after.given = link.given ∧ after.held.Sublist link.held := by
  cases effect with
  | foreign | unknown | unacquired => exact .inr ⟨rfl, rfl, List.Sublist.refl _⟩
  | tagged asks carries held answers talk =>
      obtain ⟨-, _, _, rfl⟩ := talk
      exact .inr ⟨answers, rfl, List.Sublist.refl _⟩
  | borrowed asks loose acquired answers talk =>
      obtain ⟨-, _, _, rfl⟩ := talk
      obtain ⟨_, _, rfl⟩ := Link.of_acquire_ok acquired
      exact .inr ⟨answers, rfl, List.Sublist.refl _⟩
  | unstarted acquired begun =>
      obtain ⟨_, _, rfl⟩ := Link.of_acquire_ok acquired
      exact .inr ⟨rfl, rfl, List.Sublist.refl _⟩
  | started acquired begun =>
      obtain ⟨_, _, rfl⟩ := Link.of_acquire_ok acquired
      exact .inl ⟨_, _, acquired, rfl, rfl, rfl⟩
  | @finished _ _ _ _ ended ends held =>
      refine .inr ⟨?_, rfl, List.filter_sublist⟩
      cases ended <;> rfl
  | closed => exact .inr ⟨rfl, rfl, List.nil_sublist _⟩

theorem given_le (effect : Effect link call result messages after) : link.given ≤ after.given := by
  rcases effect.held_cases with ⟨_, _, -, -, given, -⟩ | ⟨-, given, -⟩
  · rw [given]
    exact Nat.le_succ _
  · exact Nat.le_of_eq given.symm

/-- A call keeps handles and connections apart. -/
theorem tidy (effect : Effect link call result messages after) (free : link.HandsOutFree)
    (tidy : link.Tidy) : after.Tidy := by
  rcases effect.held_cases with ⟨connection, taken, acquired, -, given, held⟩ | ⟨-, given, kept⟩
  · have unused : link.given + 1 ∉ link.held.map Prod.fst := fun mem =>
      absurd (tidy.given _ mem) (Nat.not_succ_le_self _)
    constructor
    · rw [held, List.map_append, List.map_singleton, ← List.concat_eq_append]
      exact List.Nodup.concat unused tidy.handles
    · intro handle mem
      rw [held, List.map_append, List.mem_append] at mem
      rw [given]
      rcases mem with old | new
      · exact Nat.le_succ_of_le (tidy.given handle old)
      · exact Nat.le_of_eq (List.mem_singleton.mp new)
    · rw [held, List.map_append, List.map_singleton, ← List.concat_eq_append]
      exact List.Nodup.concat (free connection taken acquired) tidy.connections
  · constructor
    · exact tidy.handles.sublist (kept.map Prod.fst)
    · intro handle mem
      rw [given]
      exact tidy.given handle ((kept.map Prod.fst).subset mem)
    · exact tidy.connections.sublist (kept.map Prod.snd)

/-- A call with a handle speaks over the connection of the handle. -/
theorem over_held (effect : Effect link call result messages after) {handle : Handle}
    (carries : call.handle? = some handle) {sent : Sent} (mem : sent ∈ messages) :
    link.held.lookup handle = some sent.connection := by
  cases effect with
  | foreign | unknown | unacquired | closed => cases mem
  | tagged asks carries' held answers talk =>
      cases carries.symm.trans carries'
      rw [held, (talk.1 sent mem).along]
  | borrowed asks loose => cases carries.symm.trans loose
  | unstarted | started => cases carries
  | finished ends held =>
      cases carries.symm.trans (Call.handle?_of_end? ends)
      rw [List.mem_singleton.mp mem]
      exact held

/-- A call without a handle speaks over a connection from the pool and ends no
transaction. -/
theorem over_acquired (effect : Effect link call result messages after)
    (loose : call.handle? = none) {sent : Sent} (mem : sent ∈ messages) :
    (∃ taken, Link.acquire.run link = (.ok sent.connection, taken)) ∧
      sent.message.isEnd = false := by
  cases effect with
  | foreign | unknown | unacquired | closed => cases mem
  | tagged asks carries => cases loose.symm.trans carries
  | borrowed asks loose' acquired answers talk =>
      rw [(talk.1 sent mem).along]
      exact ⟨⟨_, acquired⟩, (talk.1 sent mem).continues⟩
  | unstarted acquired begun | started acquired begun =>
      rw [(begun.mem_messages mem).1]
      exact ⟨⟨_, acquired⟩, (begun.mem_messages mem).2⟩
  | finished ends => cases loose.symm.trans (Call.handle?_of_end? ends)

/-- A call with a handle that holds no connection is refused. -/
theorem of_unheld (effect : Effect link call result messages after)
    (native : call.foreign = false) {handle : Handle} (carries : call.handle? = some handle)
    (unheld : link.held.lookup handle = none) :
    result = .error (.transaction (.unknownHandle handle)) ∧ messages = [] := by
  cases effect with
  | foreign foreign => cases native.symm.trans foreign
  | unknown native' carries' =>
      cases carries.symm.trans carries'
      exact ⟨rfl, rfl⟩
  | unacquired loose => cases carries.symm.trans loose
  | tagged asks carries' held =>
      cases carries.symm.trans carries'
      cases unheld.symm.trans held
  | borrowed asks loose => cases carries.symm.trans loose
  | unstarted | started | closed => cases carries
  | finished ends held =>
      cases carries.symm.trans (Call.handle?_of_end? ends)
      cases unheld.symm.trans held

/-- A call ends no transaction, or the one of its handle, which is gone afterwards. -/
theorem ends_cases (effect : Effect link call result messages after) :
    messages.filter (fun sent => sent.message.isEnd) = [] ∨
      messages.length = 1 ∧ ∃ handle, call.handle? = some handle ∧
        handle ∈ link.held.map Prod.fst ∧ handle ∉ after.held.map Prod.fst := by
  have silent {messages : List Sent} (continues : ∀ sent ∈ messages, sent.message.isEnd = false) :
      messages.filter (fun sent => sent.message.isEnd) = [] := by
    rw [List.filter_eq_nil_iff]
    intro sent mem
    rw [continues sent mem]
    exact Bool.false_ne_true
  cases effect with
  | foreign | unknown | unacquired | closed => exact .inl rfl
  | tagged asks carries held answers talk =>
      exact .inl (silent fun sent mem => (talk.1 sent mem).continues)
  | borrowed asks loose acquired answers talk =>
      exact .inl (silent fun sent mem => (talk.1 sent mem).continues)
  | unstarted acquired begun | started acquired begun =>
      exact .inl (silent fun sent mem => (begun.mem_messages mem).2)
  | @finished call handle statement connection ended ends held =>
      refine .inr ⟨rfl, handle, Call.handle?_of_end? ends, ?_, ?_⟩
      · by_contra none
        rw [lookup_eq_none.mpr none] at held
        cases held
      · intro mem
        obtain ⟨pin, kept, same⟩ := List.mem_map.mp mem
        have other := (List.mem_filter.mp kept).2
        rw [decide_eq_true_eq] at other
        exact other same

end Effect

/-- What a call does when some handles are open.  One that carries a handle that is not open
is refused and sends nothing, whether it is to run SQL, store rows or end a transaction.  One
that carries an open handle sends over the connection of that handle.  Any other call sends
over none of these connections, and ends no transaction.  No call speaks over two. -/
structure Respects (opened : List (Handle × Nat)) (call : Call) (result : Result Answer)
    (messages : List Sent) : Prop where
  unknown : ∀ handle, call.handle? = some handle → handle ∉ opened.map Prod.fst →
    call.foreign = false →
      result = .error (.transaction (.unknownHandle handle)) ∧ messages = []
  tagged : ∀ handle connection, call.handle? = some handle → (handle, connection) ∈ opened →
    ∀ sent ∈ messages, sent.connection = connection
  untagged : call.handle? = none →
    ∀ sent ∈ messages, sent.connection ∉ opened.map Prod.snd ∧ sent.message.isEnd = false
  alone : ∀ first ∈ messages, ∀ second ∈ messages, first.connection = second.connection

theorem Effect.respects {link after : Link} {call : Call} {result : Result Answer}
    {messages : List Sent} (effect : Effect link call result messages after)
    (free : link.HandsOutFree) (tidy : link.Tidy) : Respects link.held call result messages := by
  constructor
  · intro handle carries unheld native
    exact effect.of_unheld native carries (lookup_eq_none.mpr unheld)
  · intro handle connection carries held sent mem
    have found := lookup_of_mem tidy.handles held
    rw [effect.over_held carries mem] at found
    exact Option.some.inj found
  · intro loose sent mem
    obtain ⟨⟨taken, acquired⟩, continues⟩ := effect.over_acquired loose mem
    exact ⟨free _ taken acquired, continues⟩
  · intro first firstMem second secondMem
    cases carries : call.handle? with
    | some handle =>
        have found := effect.over_held carries firstMem
        rw [effect.over_held carries secondMem] at found
        exact (Option.some.inj found).symm
    | none =>
        obtain ⟨⟨taken, acquired⟩, -⟩ := effect.over_acquired carries firstMem
        obtain ⟨⟨taken', acquired'⟩, -⟩ := effect.over_acquired carries secondMem
        rw [acquired] at acquired'
        exact Except.ok.inj (congrArg Prod.fst acquired')

/-! ## Every history -/

/-- What the client knows agrees with its history. -/
structure Agrees (events : List Event) (link : Link) : Prop where
  tidy : link.Tidy
  held : link.held = pins events
  given : returned events = List.range' 1 link.given
  /-- The transaction of a handle that is open or still to come has not been ended. -/
  unended : ∀ handle, handle ∈ link.held.map Prod.fst ∨ link.given < handle →
    ends handle events = []
  once : ∀ handle, (ends handle events).length ≤ 1

theorem agrees_fresh {server : Server} : Agrees [] (.unconnected server) := by
  constructor
  · exact ⟨List.nodup_nil, nofun, List.nodup_nil⟩
  · rfl
  · rfl
  · exact fun _ _ => rfl
  · exact fun _ => Nat.zero_le _

theorem Agrees.withPool {events : List Event} {link : Link} (agrees : Agrees events link)
    (pool : Pool) : Agrees events (link.withPool pool) where
  tidy := ⟨agrees.tidy.handles, agrees.tidy.given, agrees.tidy.connections⟩
  held := agrees.held
  given := agrees.given
  unended := agrees.unended
  once := agrees.once

/-- One more call keeps the agreement. -/
theorem Agrees.call {events : List Event} {event : Event} (agrees : Agrees events event.before)
    (free : event.before.HandsOutFree) : Agrees (events ++ [event]) event.after := by
  have effect := event.effect
  have spent (handle : Handle) : ends handle (events ++ [event]) = ends handle events ++
      if event.call.handle? = some handle then
        event.sent.filter fun sent => sent.message.isEnd else [] := by
    rw [ends, List.flatMap_append, List.flatMap_singleton, ends]
  -- a handle that is open or still to come after the call was so before it
  have earlier (handle : Handle)
      (live : handle ∈ event.after.held.map Prod.fst ∨ event.after.given < handle) :
      handle ∈ event.before.held.map Prod.fst ∨ event.before.given < handle := by
    rcases effect.held_cases with ⟨connection, taken, -, -, given, held⟩ | ⟨-, given, kept⟩
    · rw [given, held, List.map_append, List.mem_append, List.map_singleton,
        List.mem_singleton] at live
      rcases live with (old | new) | later
      · exact .inl old
      · exact .inr (Nat.lt_of_succ_le (Nat.le_of_eq new.symm))
      · exact .inr (Nat.lt_of_succ_lt later)
    · rw [given] at live
      exact live.imp_left fun mem => (kept.map Prod.fst).subset mem
  constructor
  · exact effect.tidy free agrees.tidy
  · rw [effect.held_eq, agrees.held, pins, pins, List.foldl_append]
    rfl
  · have gave : returned (events ++ [event]) =
        List.range' 1 event.before.given ++ (returned? event.result).toList := by
      rw [← agrees.given, returned, List.filterMap_append, returned]
      cases next : returned? event.result <;> simp [next]
    rcases effect.held_cases with ⟨connection, taken, -, next, given, held⟩ | ⟨none, given, kept⟩
    · rw [gave, given, next, List.range'_1_concat, Nat.add_comm 1]
      rfl
    · rw [gave, given, none]
      exact List.append_nil _
  · intro handle live
    rw [spent, agrees.unended handle (earlier handle live), List.nil_append]
    split_ifs with carries
    · rcases effect.ends_cases with silent | ⟨-, gone, carried, held, unheld⟩
      · exact silent
      · cases carries.symm.trans carried
        rcases live with mem | later
        · exact absurd mem unheld
        · exact absurd (agrees.tidy.given handle held)
            (Nat.not_le.mpr (Nat.lt_of_le_of_lt effect.given_le later))
    · rfl
  · intro handle
    rw [spent]
    split_ifs with carries
    · rcases effect.ends_cases with silent | ⟨single, gone, carried, held, unheld⟩
      · rw [silent, List.append_nil]
        exact agrees.once handle
      · cases carries.symm.trans carried
        rw [agrees.unended handle (.inl held), List.nil_append]
        exact Nat.le_trans (List.length_filter_le _ _) (Nat.le_of_eq single)
    · rw [List.append_nil]
      exact agrees.once handle

section

variable {replies : List (Server.Reply ColumnType)}
  {inferences : List (Except DatabaseFailure (List ColumnType))} {events : List Event}
  {link : Link}

theorem History.agrees (history : History replies inferences events link) :
    Agrees events link := by
  induction history with
  | fresh => exact agrees_fresh
  | @call events link history call pool free agrees =>
      exact Agrees.call (agrees.withPool pool) free

/-- The handles that are returned are the first numbers in order.  A call with a handle that
is not open is refused and sends nothing, one with an open handle sends over its connection
only, and any other one over no connection of an open handle.  Open handles differ and so do
their connections.  At most one end of a transaction is sent for each handle, and the client
counts the handles that are open. -/
theorem History.handles_safe (history : History replies inferences events link) :
    returned events = List.range' 1 (returned events).length ∧
      (∀ past event, past ++ [event] <+: events →
        Respects (pins past) event.call event.result event.sent) ∧
      ((pins events).map Prod.fst).Nodup ∧ ((pins events).map Prod.snd).Nodup ∧
      (∀ handle, (ends handle events).length ≤ 1) ∧
      link.openTransactions = (pins events).length := by
  have agrees := history.agrees
  refine ⟨?_, ?_, ?_, ?_, agrees.once, ?_⟩
  · rw [agrees.given, List.length_range']
  · intro past event earlier
    obtain ⟨found, pool, sofar, before, free⟩ := history.of_prefix earlier
    have agreed : Agrees past event.before := before ▸ sofar.agrees.withPool pool
    rw [← agreed.held]
    exact event.effect.respects free agreed.tidy
  · rw [← agrees.held]
    exact agrees.tidy.handles
  · rw [← agrees.held]
    exact agrees.tidy.connections
  · rw [Link.openTransactions, agrees.held]

end

/-- Two transactions among calls that go wrong: a start and an end are refused, a handle is
used after its end, and another one after the client was closed. -/
def troubledCalls : List Call :=
  [.start .standard false, .start .standard false, .execute (.sql [⟨"SELECT 1;", []⟩]) (some 1),
    .execute (.sql [⟨"SELECT 1;", []⟩]) none, .start .serializable true, .commit 1, .rollback 1,
    .close, .execute (.sql [⟨"SELECT 1;", []⟩]) (some 2)]

/-- The server refuses the first start and the end. -/
def troubledReplies : List (Server.Reply ColumnType) :=
  [.error (.refused "25006" "no"), .ok ⟨⟨[], []⟩, 0⟩, .ok ⟨⟨[], []⟩, 0⟩, .ok ⟨⟨[], []⟩, 0⟩,
    .ok ⟨⟨[], []⟩, 0⟩, .ok ⟨⟨[], []⟩, 0⟩, .error (.refused "40001" "no")]

theorem handles_safe_troubledCalls :
    let client := Link.unconnected (.fresh troubledReplies [] none)
    let events := client.events troubledCalls
    returned events = [1, 2] ∧ pins (events.take 5) = [(1, 1), (2, 2)] ∧
      events.map (fun event => event.sent.map Sent.connection) =
        [[1], [1], [1], [2], [2, 2], [1], [], [], []] ∧
      (∀ past event, past ++ [event] <+: events →
        Respects (pins past) event.call event.result event.sent) ∧
      (∀ handle, (ends handle events).length ≤ 1) ∧
      (client.afterAll troubledCalls).openTransactions = 0 := by
  have safe := History.handles_safe (history_events troubledReplies [] troubledCalls)
  exact ⟨by decide, by decide, by decide, safe.2.1, safe.2.2.2.2.1, by decide⟩

end Polyquery.Postgres
