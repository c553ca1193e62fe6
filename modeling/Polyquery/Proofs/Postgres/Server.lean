import Polyquery.Postgres.Database
import Polyquery.Proofs.Session

/-!
# Talking to the PostgreSQL server

Statements of a program go over one connection and leave all transactions as they are.
Only the statements about transactions open and close them: a start that the server
acknowledges opens one, an end closes it whatever the answer is.
-/

namespace Polyquery.Postgres

/-- The entry under a key is found among the entries whose keys pass a test if the key
passes it. -/
theorem lookup_filter_key {κ β : Type} [BEq κ] [LawfulBEq κ] (keeps : κ → Bool) (key : κ)
    (entries : List (κ × β)) :
    (entries.filter fun entry => keeps entry.1).lookup key =
      if keeps key then entries.lookup key else none := by
  induction entries with
  | nil => simp
  | cons entry rest ih =>
      obtain ⟨candidate, value⟩ := entry
      rw [List.filter_cons, List.lookup_cons]
      by_cases same : key = candidate
      · subst same
        cases kept : keeps key <;> simp [kept, ih]
      · have different : (key == candidate) = false := beq_eq_false_iff_ne.mpr same
        cases kept : keeps candidate <;> simp [List.lookup_cons, different, ih]

/-- Whether a message makes the changes of a transaction permanent or undoes them. -/
def Message.isEnd : Message → Bool
  | .plain sql => sql = Transaction.commit.text || sql = Transaction.rollback.text
  | _ => false

namespace Server

/-! ## What the server writes down and forgets -/

/-- The server after some messages, with the replies and types that are left. -/
def heard (messages : List Sent) (replies : List (Server.Reply ColumnType))
    (inferences : List (Except DatabaseFailure (List ColumnType))) (server : Server) : Server :=
  { server with
    replies := replies, inferences := inferences, sent := server.sent ++ messages }

/-- The server when it has acknowledged the start of its next transaction. -/
def enter (connection : Nat) (server : Server) : Server :=
  { server with
    inTransaction := (connection, server.started) :: (server.leave connection).inTransaction }

/-- The server when it was asked to start one more transaction. -/
def asked (server : Server) : Server :=
  { server with started := server.started + 1 }

variable {server : Server} {connection other : Nat} {messages : List Sent}
  {replies : List (Server.Reply ColumnType)}
  {inferences : List (Except DatabaseFailure (List ColumnType))}

@[simp]
theorem heard_sent : (server.heard messages replies inferences).sent = server.sent ++ messages :=
  rfl

@[simp]
theorem heard_started : (server.heard messages replies inferences).started = server.started :=
  rfl

@[simp]
theorem heard_replies : (server.heard messages replies inferences).replies = replies :=
  rfl

@[simp]
theorem heard_inferences :
    (server.heard messages replies inferences).inferences = inferences :=
  rfl

@[simp]
theorem heard_heard {more : List Sent} {later : List (Server.Reply ColumnType)}
    {further : List (Except DatabaseFailure (List ColumnType))} :
    (server.heard messages replies inferences).heard more later further =
      server.heard (messages ++ more) later further := by
  simp only [heard, List.append_assoc]

@[simp]
theorem transaction?_heard :
    (server.heard messages replies inferences).transaction? other = server.transaction? other :=
  rfl

@[simp]
theorem asked_sent : server.asked.sent = server.sent :=
  rfl

@[simp]
theorem transaction?_asked : server.asked.transaction? other = server.transaction? other :=
  rfl

@[simp]
theorem enter_sent : (server.enter connection).sent = server.sent :=
  rfl

@[simp]
theorem leave_sent : (server.leave connection).sent = server.sent :=
  rfl

theorem transaction?_leave :
    (server.leave connection).transaction? other =
      if other = connection then none else server.transaction? other := by
  rw [transaction?, leave, lookup_filter_key fun key => decide (key ≠ connection)]
  by_cases ends : other = connection
  · rw [if_pos ends, if_neg (by simpa using ends)]
  · rw [if_neg ends, if_pos (by simpa using ends), transaction?]

theorem transaction?_enter :
    (server.enter connection).transaction? other =
      if other = connection then some server.started else server.transaction? other := by
  rw [enter, transaction?, List.lookup_cons]
  by_cases same : other = connection
  · rw [if_pos same, same, beq_self_eq_true]
  · rw [if_neg same, beq_eq_false_iff_ne.mpr same]
    exact transaction?_leave.trans (if_neg same)

/-! ## Statements about transactions -/

theorem plain_opens (server : Server) (connection : Nat) (sql : String) :
    server.plain connection .opens sql =
      let start : List Sent := [⟨connection, some (server.started + 1), .plain sql⟩]
      match server.replies.headD Server.Reply.plain with
      | .ok answer =>
        (.ok answer,
          (server.asked.enter connection).heard start server.replies.tail server.inferences)
      | .error failure =>
        (.error failure, server.asked.heard start server.replies.tail server.inferences) := by
  obtain ⟨replies, inferences, refusal, started, inTransaction, sent⟩ := server
  cases replies with
  | nil => rfl
  | cons reply rest => cases reply <;> rfl

theorem plain_inside (server : Server) (connection : Nat) (sql : String) :
    server.plain connection .inside sql =
      (server.replies.headD Server.Reply.plain,
        server.heard [⟨connection, server.transaction? connection, .plain sql⟩]
          server.replies.tail server.inferences) :=
  rfl

theorem plain_closes (server : Server) (connection : Nat) (sql : String) :
    server.plain connection .closes sql =
      (server.replies.headD Server.Reply.plain,
        (server.heard [⟨connection, server.transaction? connection, .plain sql⟩]
          server.replies.tail server.inferences).leave connection) :=
  rfl

end Server

namespace Link

/-! ## Statements of a program -/

/-- What a program says over a connection: no start, and no end of a transaction. -/
structure Says (server : Server) (connection : Nat) (sent : Sent) : Prop where
  along : sent.connection = connection
  within : sent.transaction = server.transaction? connection
  continues : sent.message.isEnd = false

/-- From one state to the next, a program said something over a connection. -/
def Talk (connection : Nat) (messages : List Sent) (before after : Link) : Prop :=
  (∀ sent ∈ messages, Says before.server connection sent) ∧
    ∃ replies inferences,
      after = { before with server := before.server.heard messages replies inferences }

/-- From one state to the next, a program said something or nothing over a connection. -/
def Talks (connection : Nat) (before after : Link) : Prop :=
  ∃ messages, Talk connection messages before after

variable {α : Type} {connection : Nat}

theorem talks_refl (link : Link) : Talks connection link link := by
  refine ⟨[], nofun, link.server.replies, link.server.inferences, ?_⟩
  rw [Server.heard, List.append_nil]

theorem talks_trans (first second third : Link) (one : Talks connection first second)
    (two : Talks connection second third) : Talks connection first third := by
  obtain ⟨said, saidOnce, replies, inferences, rfl⟩ := one
  obtain ⟨more, saidThen, replies', inferences', rfl⟩ := two
  refine ⟨said ++ more, List.forall_mem_append.mpr ⟨saidOnce, fun sent mem => ?_⟩,
    replies', inferences', ?_⟩
  · exact ⟨(saidThen sent mem).along, (saidThen sent mem).within, (saidThen sent mem).continues⟩
  · rw [Server.heard_heard]

theorem run_call (act : Server → Except DatabaseFailure α × Server) (link : Link) :
    (call act).run link =
      ((act link.server).1.mapError Error.database, { link with server := (act link.server).2 }) := by
  rw [call, Session.run_bind, Session.run_get]
  dsimp only
  rcases act link.server with ⟨_ | _, _⟩ <;> rfl

theorem talks_infer (sql : String) (declared : List String) :
    (call fun server => server.infer connection sql declared).Within (Talks connection) := by
  intro link
  rw [run_call]
  refine ⟨[⟨connection, link.server.transaction? connection, .infer sql declared⟩], ?_,
    link.server.replies, link.server.inferences.tail, rfl⟩
  rw [List.forall_mem_singleton]
  exact ⟨rfl, rfl, rfl⟩

theorem talks_run (sql : String) (params : List Value) :
    (call fun server => server.run connection sql params).Within (Talks connection) := by
  intro link
  rw [run_call]
  refine ⟨[⟨connection, link.server.transaction? connection, .run sql params⟩], ?_,
    link.server.replies.tail, link.server.inferences, rfl⟩
  rw [List.forall_mem_singleton]
  exact ⟨rfl, rfl, rfl⟩

end Link

open Link

variable {connection : Nat}

theorem talks_typed (statement : Statement) :
    (typed connection statement).Within (Talks connection) := by
  rw [typed]
  split
  · exact Session.within_pure talks_refl _
  · apply (talks_infer _ _).bind talks_trans
    intro types
    exact Session.within_pure talks_refl _

theorem talks_runStatement (statement : Statement) :
    (runStatement connection statement).Within (Talks connection) := by
  rw [runStatement]
  apply (talks_typed statement).bind talks_trans
  intro text
  apply (talks_run _ _).bind talks_trans
  intro answer
  exact Session.within_pure talks_refl _

/-- The statements of a set go over one connection. -/
theorem talks_runStatements (statements : StatementSet) :
    (runStatements connection statements).Within (Talks connection) := by
  rw [runStatements]
  apply (Session.within_mapM talks_refl talks_trans talks_runStatement statements).bind talks_trans
  intro rows
  exact Session.within_pure talks_refl _

theorem talks_storeRun (table : Table) (run : UpsertRun) :
    (storeRun connection table run).Within (Talks connection) := by
  rw [storeRun]
  apply (Session.within_ofResult talks_refl _).bind talks_trans
  intro drafts
  apply (talks_runStatements _).bind talks_trans
  intro returned
  split <;> exact Session.within_pure talks_refl _

/-- The rows of an upsert go over one connection. -/
theorem talks_storeRows (table : Table) (rows : List Row) :
    (storeRows table rows connection).Within (Talks connection) := by
  rw [storeRows]
  apply (Session.within_mapM talks_refl talks_trans (talks_storeRun table) _).bind talks_trans
  intro keys
  exact Session.within_pure talks_refl _

end Polyquery.Postgres
