import Mathlib
import Polyquery.Proofs.Postgres.Server

/-!
# Calls on the PostgreSQL client

What one call can do is said once: what it returns, what it sends and where it leaves the
client.  A call with a handle either finds no connection for it or works on that
connection.  A call without one takes a connection from the pool, and gives it back unless
a transaction keeps it.
-/

namespace Polyquery.Postgres

/-- A call on the client. -/
inductive Call where
  | start (isolation : Isolation) (readOnly : Bool)
  | execute (generated : Generated) (handle : Option Handle)
  | upsert (table : Table) (rows : List Row) (handle : Option Handle)
  | commit (handle : Handle)
  | rollback (handle : Handle)
  | close

/-- What a call returns. -/
inductive Answer where
  | handle (handle : Handle)
  | rows (rows : List Row)
  | done

/-- The handle that a call returns. -/
def returned? : Result Answer → Option Handle
  | .ok (.handle handle) => some handle
  | _ => none

namespace Call

/-- The action of a call. -/
def act : Call → Session Link Answer
  | start isolation readOnly => Answer.handle <$> database.start isolation readOnly
  | execute generated handle => Answer.rows <$> database.execute generated handle
  | upsert table rows handle => Answer.rows <$> database.upsert table rows handle
  | commit handle => (fun _ => Answer.done) <$> database.commit handle
  | rollback handle => (fun _ => Answer.done) <$> database.rollback handle
  | close => (fun _ => Answer.done) <$> database.close

/-- The handle that a call carries. -/
def handle? : Call → Option Handle
  | execute _ handle | upsert _ _ handle => handle
  | commit handle | rollback handle => some handle
  | start _ _ | close => none

/-- The statement with which a call ends the transaction of a handle. -/
def end? : Call → Option (Handle × Statement)
  | commit handle => some (handle, Transaction.commit)
  | rollback handle => some (handle, Transaction.rollback)
  | _ => none

/-- Whether a call runs statements of a program. -/
def asks : Call → Bool
  | execute _ _ | upsert _ _ _ => true
  | _ => false

/-- Whether a call asks this kind of server for something that it cannot do. -/
def foreign : Call → Bool
  | execute (.elastic _) _ => true
  | _ => false

variable {call : Call} {handle : Handle} {statement : Statement}

theorem asks_of_foreign (foreign : call.foreign = true) : call.asks = true := by
  cases call with
  | execute | upsert => rfl
  | _ => cases foreign

/-- A call that ends a transaction carries its handle. -/
theorem handle?_of_end? (ends : call.end? = some (handle, statement)) :
    call.handle? = some handle := by
  cases call <;> cases ends <;> rfl

end Call

namespace Link

variable {α : Type} {link taken after : Link} {connection : Nat} {failure : Error}

/-! ## The pool -/

/-- Either no connection can be had, and nothing changes, or the one that waits longest is
taken, or, when none waits, a new one is made. -/
theorem acquire_cases (link : Link) :
    (∃ failure, acquire.run link = (.error (.database failure), link)) ∨
      (∃ connection rest, link.idle = connection :: rest ∧
        acquire.run link = (.ok connection, { link with idle := rest })) ∨
      link.idle = [] ∧
        acquire.run link = (.ok (link.made + 1), { link with made := link.made + 1 }) := by
  obtain ⟨server, idle, held, given, made, closed⟩ := link
  cases closed with
  | true => exact .inl ⟨.poolClosed, rfl⟩
  | false =>
      cases idle with
      | cons connection rest => exact .inr (.inl ⟨connection, rest, rfl, rfl⟩)
      | nil =>
          by_cases full : largestPool ≤ held.length
          · refine .inl ⟨.poolTimedOut, ?_⟩
            simp [acquire, Session.run_bind, full]
          · cases refusal : server.refusal with
            | some failure =>
                refine .inl ⟨failure, ?_⟩
                simp [acquire, Session.run_bind, full, refusal]
            | none =>
                refine .inr (.inr ⟨rfl, ?_⟩)
                simp [acquire, Session.run_bind, Session.run_map, Except.map, full, refusal]

/-- A connection that cannot be had changes nothing. -/
theorem of_acquire_error (refused : acquire.run link = (.error failure, after)) :
    after = link := by
  rcases link.acquire_cases with ⟨_, eq⟩ | ⟨_, _, -, eq⟩ | ⟨-, eq⟩
  all_goals
    rw [eq] at refused
    cases refused
  rfl

/-- Taking a connection changes nothing but the pool. -/
theorem of_acquire_ok (acquired : acquire.run link = (.ok connection, taken)) :
    ∃ idle made, taken = { link with idle := idle, made := made } := by
  rcases link.acquire_cases with ⟨_, eq⟩ | ⟨_, _, -, eq⟩ | ⟨-, eq⟩
  all_goals
    rw [eq] at acquired
    cases acquired
  · exact ⟨_, link.made, rfl⟩
  · exact ⟨link.idle, _, rfl⟩

theorem run_borrowing (action : Nat → Session Link α) (link : Link) :
    (borrowing action).run link =
      match acquire.run link with
      | (.error failure, after) => (.error failure, after)
      | (.ok connection, taken) =>
        (((action connection).run taken).1,
          { ((action connection).run taken).2 with
            idle := ((action connection).run taken).2.idle ++ [connection] }) := by
  rw [borrowing, Session.run_bind]
  rcases acquire.run link with ⟨_ | connection, taken⟩
  · rfl
  · simp [Session.run_bind, giveBack]

theorem run_pinned (handle : Handle) (link : Link) :
    (pinned handle).run link =
      match link.held.lookup handle with
      | some connection => (.ok connection, link)
      | none => (.error (.transaction (.unknownHandle handle)), link) := by
  rw [pinned, Session.run_bind, Session.run_get]
  dsimp only
  cases link.held.lookup handle <;> rfl

theorem run_on_some (handle : Handle) (action : Nat → Session Link α) (link : Link) :
    (on (some handle) action).run link =
      match link.held.lookup handle with
      | some connection => (action connection).run link
      | none => (.error (.transaction (.unknownHandle handle)), link) := by
  rw [on, Session.run_bind, run_pinned]
  cases link.held.lookup handle <;> rfl

end Link

/-! ## Starts and ends -/

/-- What is said over a connection to begin a transaction. -/
def opening (server : Server) (connection : Nat) (isolation : Isolation) (readOnly : Bool) :
    List Sent :=
  (Transaction.start isolation readOnly).map fun statement =>
    ⟨connection, some (server.started + 1), .plain statement.text⟩

/-- How a beginning can go: its first statement is refused, all of it is acknowledged, or
the first statement is acknowledged and the second one refused. -/
inductive Begun (server : Server) (connection : Nat) (isolation : Isolation) (readOnly : Bool) :
    Result Unit → List Sent → Server → Prop
  | refused {failure replies messages}
      (first : messages = (opening server connection isolation readOnly).take 1) :
      Begun server connection isolation readOnly (.error failure) messages
        (server.asked.heard messages replies server.inferences)
  | opened {replies messages} (all : messages = opening server connection isolation readOnly) :
      Begun server connection isolation readOnly (.ok ()) messages
        ((server.asked.enter connection).heard messages replies server.inferences)
  | abandoned {failure replies messages}
      (all : messages = opening server connection isolation readOnly)
      (both : messages.length = 2) :
      Begun server connection isolation readOnly (.error failure) messages
        ((server.asked.enter connection).heard messages replies server.inferences)

/-- A transaction begins with one or two statements. -/
theorem start_eq (isolation : Isolation) (readOnly : Bool) :
    ∃ first rest, Transaction.start isolation readOnly = first :: rest ∧
      (rest = [] ∨ ∃ second, rest = [second]) := by
  unfold Transaction.start
  cases isolation.sql? with
  | none => exact ⟨_, _, rfl, .inl rfl⟩
  | some level => exact ⟨_, _, rfl, .inr ⟨_, rfl⟩⟩

/-- A beginning goes in one of these ways and changes nothing but the server. -/
theorem begin_begun (connection : Nat) (isolation : Isolation) (readOnly : Bool) (link : Link) :
    ∃ messages server,
      Begun link.server connection isolation readOnly
        ((begin connection isolation readOnly).run link).1 messages server ∧
      ((begin connection isolation readOnly).run link).2 = { link with server := server } := by
  obtain ⟨first, rest, start, short⟩ := start_eq isolation readOnly
  have said : opening link.server connection isolation readOnly = (first :: rest).map fun s =>
      ⟨connection, some (link.server.started + 1), .plain s.text⟩ := by
    rw [opening, start]
  have inside : (link.server.asked.enter connection).transaction? connection =
      some (link.server.started + 1) :=
    Server.transaction?_enter.trans (if_pos rfl)
  rw [begin, start]
  simp only [Session.run_bind, Link.run_call, Server.plain_opens]
  cases link.server.replies.headD Server.Reply.plain with
  | error failure => exact ⟨_, _, .refused (by rw [said]; rfl), rfl⟩
  | ok answer =>
      rcases short with rfl | ⟨second, rfl⟩
      · exact ⟨_, _, .opened said.symm, rfl⟩
      · simp only [Except.mapError, List.forIn_cons, List.forIn_nil, bind_assoc, pure_bind,
          Session.run_bind, Link.run_call, Server.plain_inside, Server.transaction?_heard, inside,
          Server.heard_replies, Server.heard_inferences, Server.heard_heard]
        cases link.server.replies.tail.headD Server.Reply.plain with
        | error failure => exact ⟨_, _, .abandoned said.symm rfl, rfl⟩
        | ok answer => exact ⟨_, _, .opened said.symm, rfl⟩

/-- Whatever is said to begin a transaction goes over its connection and ends none. -/
theorem mem_opening {server : Server} {connection : Nat} {isolation : Isolation}
    {readOnly : Bool} {sent : Sent} (mem : sent ∈ opening server connection isolation readOnly) :
    sent.connection = connection ∧ sent.message.isEnd = false := by
  have plain : ∀ statement ∈ Transaction.start isolation readOnly,
      (Message.plain statement.text).isEnd = false := by
    cases isolation <;> cases readOnly <;> decide
  obtain ⟨statement, inStart, rfl⟩ := List.mem_map.mp mem
  exact ⟨rfl, plain statement inStart⟩

namespace Begun

variable {server after : Server} {connection : Nat} {isolation : Isolation} {readOnly : Bool}
  {result : Result Unit} {messages : List Sent}

theorem sent_eq (begun : Begun server connection isolation readOnly result messages after) :
    after.sent = server.sent ++ messages := by
  cases begun <;> rfl

theorem mem_messages (begun : Begun server connection isolation readOnly result messages after)
    {sent : Sent} (mem : sent ∈ messages) :
    sent.connection = connection ∧ sent.message.isEnd = false := by
  cases begun with
  | refused first =>
      rw [first] at mem
      exact mem_opening (List.mem_of_mem_take mem)
  | opened all | abandoned all =>
      rw [all] at mem
      exact mem_opening mem

theorem ne_nil (begun : Begun server connection isolation readOnly result messages after) :
    messages ≠ [] := by
  obtain ⟨first, rest, start, -⟩ := start_eq isolation readOnly
  have said : opening server connection isolation readOnly ≠ [] := by
    rw [opening, start]
    exact List.cons_ne_nil _ _
  cases begun with
  | refused first =>
      rw [first]
      simpa using said
  | opened all | abandoned all => rwa [all]

end Begun

theorem run_start (isolation : Isolation) (readOnly : Bool) (link : Link) :
    (start isolation readOnly).run link =
      match Link.acquire.run link with
      | (.error failure, after) => (.error failure, after)
      | (.ok connection, taken) =>
        match (begin connection isolation readOnly).run taken with
        | (.error failure, after) =>
          (.error failure, { after with idle := after.idle ++ [connection] })
        | (.ok (), after) =>
          (.ok (after.given + 1),
            { after with
              given := after.given + 1
              held := after.held ++ [(after.given + 1, connection)] }) := by
  rw [start, Session.run_bind]
  rcases Link.acquire.run link with ⟨_ | connection, taken⟩
  · rfl
  · simp only [Session.run_bind, Session.run_attempt]
    rcases (begin connection isolation readOnly).run taken with ⟨_ | _, after⟩ <;> rfl

theorem run_finish (handle : Handle) (statement : Statement) (link : Link) :
    (finish handle statement).run link =
      match link.held.lookup handle with
      | none => (.error (.transaction (.unknownHandle handle)), link)
      | some connection =>
        (((link.server.replies.headD Server.Reply.plain).mapError Error.database).map fun _ => (),
          { link with
            held := link.held.filter fun entry => entry.1 ≠ handle
            idle := link.idle ++ [connection]
            server := (link.server.heard
              [⟨connection, link.server.transaction? connection, .plain statement.text⟩]
              link.server.replies.tail link.server.inferences).leave connection }) := by
  rw [finish, Session.run_bind, Link.run_pinned]
  cases link.held.lookup handle with
  | none => rfl
  | some connection =>
      simp only [Session.run_bind, Session.run_modify, Session.run_attempt, Link.run_call,
        Server.plain_closes, Link.giveBack, Session.run_ofResult]
      cases link.server.replies.headD Server.Reply.plain <;> rfl

/-! ## Every call -/

/-- Everything that a call can do to a client: what it returns, what it sends and where it
leaves the client. -/
inductive Effect (link : Link) : Call → Result Answer → List Sent → Link → Prop
  /-- The client does not run requests to a cluster. -/
  | foreign {call operation title} (foreign : call.foreign = true) :
      Effect link call (.error (.unsupported operation title)) [] link
  /-- No connection is held for the handle. -/
  | unknown {call handle} (native : call.foreign = false) (carries : call.handle? = some handle)
      (unheld : link.held.lookup handle = none) :
      Effect link call (.error (.transaction (.unknownHandle handle))) [] link
  /-- The pool has no connection for a call without a handle. -/
  | unacquired {call failure} (loose : call.handle? = none) (opens : call ≠ .close)
      (refused : Link.acquire.run link = (.error failure, link)) :
      Effect link call (.error failure) [] link
  /-- Statements run on the connection of a handle. -/
  | tagged {call handle connection result messages after}
      (asks : call.asks = true) (carries : call.handle? = some handle)
      (held : link.held.lookup handle = some connection)
      (answers : returned? result = none)
      (talk : Link.Talk connection messages link after) :
      Effect link call result messages after
  /-- Statements run on a connection from the pool, which gets it back. -/
  | borrowed {call connection taken result messages after}
      (asks : call.asks = true) (loose : call.handle? = none)
      (acquired : Link.acquire.run link = (.ok connection, taken))
      (answers : returned? result = none)
      (talk : Link.Talk connection messages taken after) :
      Effect link call result messages { after with idle := after.idle ++ [connection] }
  /-- A transaction cannot be started, and the pool gets the connection back as it is. -/
  | unstarted {isolation readOnly connection taken failure messages server}
      (acquired : Link.acquire.run link = (.ok connection, taken))
      (begun : Begun taken.server connection isolation readOnly (.error failure) messages server) :
      Effect link (.start isolation readOnly) (.error failure) messages
        { taken with server := server, idle := taken.idle ++ [connection] }
  /-- A transaction is started, and its handle holds the connection. -/
  | started {isolation readOnly connection taken messages server}
      (acquired : Link.acquire.run link = (.ok connection, taken))
      (begun : Begun taken.server connection isolation readOnly (.ok ()) messages server) :
      Effect link (.start isolation readOnly) (.ok (.handle (taken.given + 1))) messages
        { taken with
          server := server
          given := taken.given + 1
          held := taken.held ++ [(taken.given + 1, connection)] }
  /-- A transaction ends, and the pool gets its connection back whatever the server says. -/
  | finished {call handle statement connection} {ended : Result Unit}
      (ends : call.end? = some (handle, statement))
      (held : link.held.lookup handle = some connection) :
      Effect link call (ended.map fun _ => Answer.done)
        [⟨connection, link.server.transaction? connection, .plain statement.text⟩]
        { link with
          held := link.held.filter fun entry => entry.1 ≠ handle
          idle := link.idle ++ [connection]
          server := (link.server.heard
            [⟨connection, link.server.transaction? connection, .plain statement.text⟩]
            link.server.replies.tail link.server.inferences).leave connection }
  /-- The client is closed, and no connection is left. -/
  | closed :
      Effect link .close (.ok .done) [] { link with idle := [], held := [], closed := true }

namespace Effect

variable {link after : Link} {call : Call} {result : Result Answer} {messages : List Sent}

/-- The server has written down what a call sent. -/
theorem sent_eq (effect : Effect link call result messages after) :
    after.server.sent = link.server.sent ++ messages := by
  cases effect with
  | foreign | unknown | unacquired | closed => exact (List.append_nil _).symm
  | tagged asks carries held answers talk =>
      obtain ⟨-, _, _, rfl⟩ := talk
      rfl
  | borrowed asks loose acquired answers talk =>
      obtain ⟨-, _, _, rfl⟩ := talk
      obtain ⟨_, _, rfl⟩ := Link.of_acquire_ok acquired
      rfl
  | unstarted acquired begun | started acquired begun =>
      obtain ⟨_, _, rfl⟩ := Link.of_acquire_ok acquired
      exact begun.sent_eq
  | finished ends held => rfl

end Effect

/-- An action that runs on the connection of a handle or on a borrowed one. -/
theorem effect_on {α : Type} {call : Call} {handle : Option Handle}
    {action : Nat → Session Link α} (rows : α → List Row) (link : Link)
    (asks : call.asks = true) (native : call.foreign = false) (carries : call.handle? = handle)
    (talks : ∀ connection, (action connection).Within (Link.Talks connection)) :
    ∃ messages, Effect link call
      (((Link.on handle action).run link).1.map fun value => Answer.rows (rows value)) messages
      ((Link.on handle action).run link).2 := by
  have answers (result : Result α) :
      returned? (result.map fun value => Answer.rows (rows value)) = none := by
    cases result <;> rfl
  cases handle with
  | some handle =>
      rw [Link.run_on_some]
      cases held : link.held.lookup handle with
      | none => exact ⟨_, .unknown native carries held⟩
      | some connection =>
          obtain ⟨messages, talk⟩ := talks connection link
          exact ⟨messages, .tagged asks carries held (answers _) talk⟩
  | none =>
      rw [Link.on, Link.run_borrowing]
      rcases acquired : Link.acquire.run link with ⟨failure | connection, taken⟩
      · cases Link.of_acquire_error acquired
        refine ⟨_, .unacquired carries ?_ acquired⟩
        rintro rfl
        cases asks
      · obtain ⟨messages, talk⟩ := talks connection taken
        exact ⟨messages, .borrowed asks carries acquired (answers _) talk⟩

theorem effect_finish {call : Call} {handle : Handle} {statement : Statement} (link : Link)
    (native : call.foreign = false) (carries : call.handle? = some handle)
    (ends : call.end? = some (handle, statement)) :
    ∃ messages, Effect link call
      (((finish handle statement).run link).1.map fun _ => Answer.done) messages
      ((finish handle statement).run link).2 := by
  rw [run_finish]
  cases held : link.held.lookup handle with
  | none => exact ⟨_, .unknown native carries held⟩
  | some connection => exact ⟨_, .finished ends held⟩

theorem effect_start (isolation : Isolation) (readOnly : Bool) (link : Link) :
    ∃ messages, Effect link (.start isolation readOnly)
      (((start isolation readOnly).run link).1.map Answer.handle) messages
      ((start isolation readOnly).run link).2 := by
  rw [run_start]
  rcases acquired : Link.acquire.run link with ⟨failure | connection, taken⟩
  · cases Link.of_acquire_error acquired
    exact ⟨_, .unacquired rfl nofun acquired⟩
  · dsimp only
    obtain ⟨messages, server, begun, after⟩ := begin_begun connection isolation readOnly taken
    rcases beginning : (begin connection isolation readOnly).run taken with
      ⟨failure | done, begunLink⟩
    all_goals
      rw [beginning] at begun after
      cases after
    · have unstarted := Effect.unstarted acquired begun
      exact ⟨messages, unstarted⟩
    · have started := Effect.started acquired begun
      exact ⟨messages, started⟩

/-- Every call does one of these things. -/
theorem exists_effect (call : Call) (link : Link) :
    ∃ messages, Effect link call (call.act.run link).1 messages (call.act.run link).2 := by
  cases call with
  | start isolation readOnly =>
      rw [Call.act, Session.run_map]
      exact effect_start isolation readOnly link
  | execute generated handle =>
      rw [Call.act, Session.run_map]
      cases generated with
      | elastic envelopes => exact ⟨_, .foreign rfl⟩
      | sql statements =>
          exact effect_on id link rfl rfl rfl fun connection => talks_runStatements statements
  | upsert table rows handle =>
      have ran : (Call.upsert table rows handle).act =
          (fun keys => Answer.rows (table.assignKeys rows keys)) <$>
            Link.on handle (storeRows table rows) := by
        change Answer.rows <$> (Link.on handle (storeRows table rows) >>= fun keys =>
          pure (table.assignKeys rows keys)) = _
        rw [bind_pure_comp, Functor.map_map]
      rw [ran, Session.run_map]
      exact effect_on (table.assignKeys rows) link rfl rfl rfl fun connection =>
        talks_storeRows table rows
  | commit handle =>
      rw [Call.act, Session.run_map]
      exact effect_finish link rfl rfl rfl
  | rollback handle =>
      rw [Call.act, Session.run_map]
      exact effect_finish link rfl rfl rfl
  | close => exact ⟨_, .closed⟩

end Polyquery.Postgres
