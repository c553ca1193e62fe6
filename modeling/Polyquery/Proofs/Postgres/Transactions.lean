import Mathlib
import Polyquery.Database.Rows
import Polyquery.Proofs.Postgres.Handles

/-!
# Transactions around bodies

A body makes requests to the client one after the other and has the last word on how its
transaction ends.  Whatever it asks for, its handle keeps its connection or loses it, since
no handle is given out twice.  So the transaction is ended over the connection over which it
was started, or it has been ended before, and its handle is gone in every case.
-/

namespace Polyquery

/-! ## Transactions of any database -/

/-- A body runs between the start and the end; if it fails, its failure is the result
whatever becomes of the rollback. -/
theorem Database.run_transaction {σ α : Type} (db : Database σ) (isolation : Isolation)
    (readOnly : Bool) (body : Handle → Session σ (α × Ending)) (state : σ) :
    (db.transaction isolation readOnly body).run state =
      match (db.start isolation readOnly).run state with
      | (.error failure, after) => (.error failure, after)
      | (.ok handle, begun) =>
        match (body handle).run begun with
        | (.ok (value, ending), left) =>
          (((db.finish handle ending).run left).1.map fun _ => value,
            ((db.finish handle ending).run left).2)
        | (.error failure, left) => (.error failure, ((db.rollback handle).run left).2) := by
  rw [transaction, Session.run_bind]
  rcases (db.start isolation readOnly).run state with ⟨failure | handle, begun⟩
  · rfl
  · simp only [Session.run_bind, Session.run_attempt]
    rcases (body handle).run begun with ⟨failure | ⟨value, ending⟩, left⟩
    · simp only [Session.run_bind, Session.run_attempt, Session.run_throw]
    · simp only [Session.run_bind]
      rcases (db.finish handle ending).run left with ⟨_ | _, _⟩ <;> rfl

/-- The statement that ends a transaction in this way. -/
def Database.Ending.statement : Ending → Statement
  | commit => Transaction.commit
  | rollback => Transaction.rollback

namespace Postgres

/-! ## Bodies -/

/-- A request to the client, with the type of what it gives. -/
inductive Request : Type → Type
  | call (call : Call) : Request Answer
  | update (table : Table) (rows : List Row) (handle : Option Handle) : Request (List Row)
  | putMapping (table : Table) : Request Json
  | schema : Request Schema
  | check : Request ConnectionStatus

/-- The action of a request. -/
def Request.act {β : Type} : Request β → Session Link β
  | .call made => made.act
  | .update table rows handle => database.update table rows handle
  | .putMapping table => database.putMapping table
  | .schema => database.schema
  | .check => ExceptT.lift database.check

/-- What a body does: it makes requests, each chosen by the results of those before it, and
ends with an outcome. -/
inductive Script (α : Type) : Type 1
  | done (outcome : Result α) : Script α
  | request {β : Type} (request : Request β) (next : Result β → Script α) : Script α

def Script.act {α : Type} : Script α → Session Link α
  | .done outcome => Session.ofResult outcome
  | .request asked next => do (next (← asked.act.attempt)).act

/-! ## What becomes of a handle -/

/-- From one state to the next, a handle that has been given out kept its connection or lost
it. -/
def Keeps (handle : Handle) (before after : Link) : Prop :=
  before.given ≤ after.given ∧
    (handle ≤ before.given →
      after.held.lookup handle = before.held.lookup handle ∨ after.held.lookup handle = none)

section

variable {handle : Handle} {link after : Link}

theorem keeps_of_held_eq (given : after.given = link.given) (held : after.held = link.held) :
    Keeps handle link after :=
  ⟨Nat.le_of_eq given.symm, fun _ => .inl (by rw [held])⟩

theorem keeps_refl (link : Link) : Keeps handle link link :=
  keeps_of_held_eq rfl rfl

theorem keeps_trans (first second third : Link) (one : Keeps handle first second)
    (two : Keeps handle second third) : Keeps handle first third := by
  refine ⟨Nat.le_trans one.1 two.1, fun old => ?_⟩
  rcases two.2 (Nat.le_trans old one.1) with same | lost
  · rw [same]
    exact one.2 old
  · exact .inr lost

theorem Effect.keeps {call : Call} {result : Result Answer} {messages : List Sent}
    (effect : Effect link call result messages after) : Keeps handle link after := by
  refine ⟨effect.given_le, fun old => ?_⟩
  cases effect with
  | foreign | unknown | unacquired => exact .inl rfl
  | tagged asks carries held answers talk =>
      obtain ⟨-, _, _, rfl⟩ := talk
      exact .inl rfl
  | borrowed asks loose acquired answers talk =>
      obtain ⟨-, _, _, rfl⟩ := talk
      obtain ⟨_, _, rfl⟩ := Link.of_acquire_ok acquired
      exact .inl rfl
  | unstarted acquired begun =>
      obtain ⟨_, _, rfl⟩ := Link.of_acquire_ok acquired
      exact .inl rfl
  | started acquired begun =>
      -- the new handle is none that was given out before
      obtain ⟨_, _, rfl⟩ := Link.of_acquire_ok acquired
      have other : (handle == link.given + 1) = false :=
        beq_eq_false_iff_ne.mpr (Nat.ne_of_lt (Nat.lt_succ_of_le old))
      left
      simp [List.lookup_append, List.lookup_cons, other]
  | @finished _ ended statement connection _ ends held =>
      rw [lookup_filter_key fun key => decide (key ≠ ended)]
      split
      · exact .inl rfl
      · exact .inr rfl
  | closed => exact .inr rfl

theorem keeps_borrowing {α : Type} {action : Nat → Session Link α}
    (talks : ∀ connection, (action connection).Within (Link.Talks connection)) :
    (Link.borrowing action).Within (Keeps handle) := by
  intro link
  rw [Link.run_borrowing]
  rcases acquired : Link.acquire.run link with ⟨failure | connection, taken⟩
  · cases Link.of_acquire_error acquired
    exact keeps_refl link
  · obtain ⟨messages, -, _, _, said⟩ := talks connection taken
    obtain ⟨_, _, rfl⟩ := Link.of_acquire_ok acquired
    dsimp only
    rw [said]
    exact keeps_of_held_eq rfl rfl

theorem keeps_schema : schema.Within (Keeps handle) := by
  rw [schema]
  apply (keeps_borrowing fun connection => talks_runStatement _).bind keeps_trans
  intro rows
  exact Session.within_pure keeps_refl _

theorem keeps_check : Session.Within (Keeps handle) (ExceptT.lift check) := by
  intro link
  have asked : Keeps handle link
      ((Link.borrowing fun connection => runStatement connection ⟨"SELECT 1", []⟩).run link).2 :=
    keeps_borrowing (fun connection => talks_runStatement _) link
  -- what is made of the answer leaves the state as it is
  have same : (Session.run (ExceptT.lift check) link).2 =
      ((Link.borrowing fun connection => runStatement connection ⟨"SELECT 1", []⟩).run link).2 := by
    change (StateT.run check link).2 = _
    rw [check, StateT.run_bind, Session.run]
    rcases StateT.run (ExceptT.run (Link.borrowing fun connection =>
      runStatement connection ⟨"SELECT 1", []⟩)) link with ⟨failure | rows, after⟩
    · cases failure <;> rfl
    · rfl
  rw [same]
  exact asked

theorem Request.keeps {β : Type} (request : Request β) : request.act.Within (Keeps handle) := by
  cases request with
  | call made =>
      intro link
      obtain ⟨messages, effect⟩ := exists_effect made link
      exact effect.keeps
  | update table rows given => exact fun link => keeps_refl link
  | putMapping table => exact fun link => keeps_refl link
  | schema => exact keeps_schema
  | check => exact keeps_check

/-- Whatever a body asks for, a handle that was given out before keeps its connection or
loses it. -/
theorem Script.keeps {α : Type} (script : Script α) : script.act.Within (Keeps handle) := by
  induction script with
  | done outcome => exact Session.within_ofResult keeps_refl outcome
  | request asked next ih =>
      have attempted : asked.act.attempt.Within (Keeps handle) := asked.keeps
      exact attempted.bind keeps_trans ih

end

/-! ## Ends -/

open Database (Ending)

/-- How the transaction of a handle with its connection ends, when its body has had an
outcome and left the client in some state.  The handle is gone.  There is only a result if
the body had one, and if the ending that the body asked for went over the connection and was
acknowledged.  After a failure of the body nothing but a rollback is sent, and the failure
is the result. -/
structure Settles {α : Type} (handle : Handle) (connection : Nat) (outcome : Result (α × Ending))
    (left : Link) (result : Result α) (after : Link) : Prop where
  gone : handle ∉ after.held.map Prod.fst
  acknowledged : ∀ value, result = .ok value →
    ∃ ending answer, outcome = .ok (value, ending) ∧
      left.server.plain connection .closes ending.statement.text = (.ok answer, after.server) ∧
      after.server.sent = left.server.sent ++
        [⟨connection, left.server.transaction? connection, .plain ending.statement.text⟩]
  failed : ∀ failure, outcome = .error failure → result = .error failure ∧
    ∃ messages, after.server.sent = left.server.sent ++ messages ∧
      ∀ sent ∈ messages,
        sent.connection = connection ∧ sent.message = .plain Transaction.rollback.text

variable {α : Type} {handle : Handle} {connection : Nat} {left : Link}

/-- After its end a handle is gone, whether it was open or not. -/
theorem gone_finish (handle : Handle) (statement : Statement) (link : Link) :
    handle ∉ ((finish handle statement).run link).2.held.map Prod.fst := by
  rw [run_finish]
  cases held : link.held.lookup handle with
  | none => exact lookup_eq_none.mp held
  | some connection => simp

/-- The end of a handle that kept its connection or lost it: it goes over the connection, or
it is refused. -/
theorem finish_cases (statement : Statement)
    (pinned : left.held.lookup handle = some connection ∨ left.held.lookup handle = none) :
    (∃ after, (finish handle statement).run left =
        (((left.server.plain connection .closes statement.text).1.mapError Error.database).map
          fun _ => (), after) ∧
      after.server = (left.server.plain connection .closes statement.text).2) ∨
    ∃ failure, (finish handle statement).run left = (.error failure, left) := by
  rw [run_finish]
  rcases pinned with held | lost
  · rw [held]
    exact .inl ⟨_, rfl, rfl⟩
  · rw [lost]
    exact .inr ⟨_, rfl⟩

theorem settles_error (failure : Error)
    (pinned : left.held.lookup handle = some connection ∨ left.held.lookup handle = none) :
    Settles (α := α) handle connection (.error failure) left (.error failure)
      ((finish handle Transaction.rollback).run left).2 := by
  constructor
  · exact gone_finish handle Transaction.rollback left
  · nofun
  · rintro _ ⟨⟩
    refine ⟨rfl, ?_⟩
    rcases finish_cases Transaction.rollback pinned with ⟨after, ran, server⟩ | ⟨refusal, ran⟩
    · rw [ran, server, Server.plain_closes]
      refine ⟨_, rfl, ?_⟩
      rw [List.forall_mem_singleton]
      exact ⟨rfl, rfl⟩
    · rw [ran]
      exact ⟨[], (List.append_nil _).symm, nofun⟩

theorem settles_ok (value : α) (ending : Ending)
    (pinned : left.held.lookup handle = some connection ∨ left.held.lookup handle = none) :
    Settles handle connection (.ok (value, ending)) left
      (((finish handle ending.statement).run left).1.map fun _ => value)
      ((finish handle ending.statement).run left).2 := by
  constructor
  · exact gone_finish handle ending.statement left
  · intro given success
    rcases finish_cases ending.statement pinned with ⟨after, ran, server⟩ | ⟨refusal, ran⟩
    · rw [ran] at success ⊢
      rw [server]
      refine ⟨ending, ?_⟩
      rw [Server.plain_closes] at success ⊢
      cases reply : left.server.replies.headD Server.Reply.plain with
      | error failure =>
          rw [reply] at success
          cases success
      | ok answer =>
          rw [reply] at success
          cases success
          exact ⟨answer, rfl, rfl, rfl⟩
    · rw [ran] at success
      cases success
  · nofun

/-! ## Every transaction -/

section

variable {replies : List (Server.Reply ColumnType)}
  {inferences : List (Except DatabaseFailure (List ColumnType))} {events : List Event}
  {link : Link}

theorem held_start {isolation : Isolation} {readOnly : Bool} {begun : Link}
    (started : (start isolation readOnly).run link = (.ok handle, begun)) :
    ∃ connection, handle = link.given + 1 ∧ begun.given = handle ∧
      begun.held = link.held ++ [(handle, connection)] := by
  obtain ⟨messages, effect⟩ := exists_effect (.start isolation readOnly) link
  rw [Call.act, Session.run_map] at effect
  change Effect link _ (((start isolation readOnly).run link).1.map Answer.handle) messages
    ((start isolation readOnly).run link).2 at effect
  rw [started] at effect
  rcases effect.held_cases with ⟨connection, taken, -, next, given, held⟩ | ⟨none, -⟩
  · obtain rfl := Option.some.inj next
    exact ⟨connection, rfl, given, held⟩
  · cases none

/-- A transaction whose start fails is nothing but the failed start, whatever its body.  Any
other transaction settles: its handle, which held one connection, is gone when it is over, it
has a result only after its ending was sent over this connection and acknowledged, and the
failure of its body is its own, with nothing sent but a rollback. -/
theorem History.transaction_settles (history : History replies inferences events link)
    (pool : Pool) (isolation : Isolation) (readOnly : Bool)
    (body : Handle → Script (α × Ending)) :
    let found := link.withPool pool
    let transaction :=
      (database.transaction isolation readOnly fun handle => (body handle).act).run found
    (∀ failure after, (database.start isolation readOnly).run found = (.error failure, after) →
      transaction = (.error failure, after)) ∧
    ∀ handle begun, (database.start isolation readOnly).run found = (.ok handle, begun) →
      ∃ connection, begun.held = found.held ++ [(handle, connection)] ∧
        Settles handle connection ((body handle).act.run begun).1 ((body handle).act.run begun).2
          transaction.1 transaction.2 := by
  intro found transaction
  have ran : transaction = _ := database.run_transaction isolation readOnly _ found
  constructor
  · intro failure after refused
    rw [ran, refused]
  · intro handle begun started
    obtain ⟨connection, next, given, held⟩ := held_start started
    refine ⟨connection, held, ?_⟩
    have pinned : begun.held.lookup handle = some connection := by
      have unused : handle ∉ found.held.map Prod.fst := by
        intro mem
        have old := history.agrees.tidy.given handle mem
        rw [next] at old
        exact Nat.not_succ_le_self _ old
      rw [held, List.lookup_append, lookup_eq_none.mpr unused]
      simp
    have kept : ((body handle).act.run begun).2.held.lookup handle = some connection ∨
        ((body handle).act.run begun).2.held.lookup handle = none := by
      rw [← pinned]
      exact ((body handle).keeps begun).2 (Nat.le_of_eq given.symm)
    rw [ran, started]
    dsimp only
    rcases bodyRan : (body handle).act.run begun with ⟨failure | ⟨value, ending⟩, left⟩
    all_goals rw [bodyRan] at kept
    · exact settles_error failure kept
    · have ends : database.finish handle ending = finish handle ending.statement := by
        cases ending <;> rfl
      dsimp only
      rw [ends]
      exact settles_ok value ending kept

end

/-- A body that runs a statement with its handle and wants to keep what it did if that
succeeds. -/
def cautiousBody (handle : Handle) : Script (Nat × Ending) :=
  .request (.call (.execute (.sql [⟨"SELECT 1;", []⟩]) (some handle))) fun
    | .ok _ => .done (.ok (7, .commit))
    | .error failure => .done (.error failure)

/-- A client whose server acknowledges the start and refuses the statement and the
rollback. -/
def refusedClient : Link :=
  .unconnected (.fresh [.ok ⟨⟨[], []⟩, 0⟩, .ok ⟨⟨[], []⟩, 0⟩, .error (.refused "42601" "no"),
    .error (.refused "57P01" "gone")] [] none)

/-- The transaction around the body. -/
def cautiousTransaction : Result Nat × Link :=
  (database.transaction .serializable false fun handle => (cautiousBody handle).act).run
    (refusedClient.withPool ⟨[], 0, none⟩)

theorem transaction_settles_cautiousBody :
    History refusedClient.server.replies [] [] refusedClient ∧
      cautiousTransaction.1 = .error (.database (.refused "42601" "no")) ∧
      1 ∉ cautiousTransaction.2.held.map Prod.fst ∧
      cautiousTransaction.2.server.sent.map (fun sent => (sent.connection, sent.transaction)) =
        [(1, some 1), (1, some 1), (1, some 1), (1, some 1)] := by
  let begun := ((database.start .serializable false).run
    (refusedClient.withPool ⟨[], 0, none⟩)).2
  have history : History refusedClient.server.replies [] [] refusedClient := .fresh
  have started : (database.start .serializable false).run
      (refusedClient.withPool ⟨[], 0, none⟩) = (.ok 1, begun) := by
    apply Prod.ext
    · cbv
    · rfl
  have failed : ((cautiousBody 1).act.run begun).1 =
      .error (.database (.refused "42601" "no")) := by
    cbv
  obtain ⟨connection, -, settles⟩ :=
    (history.transaction_settles ⟨[], 0, none⟩ .serializable false cautiousBody).2 1 begun started
  rw [cautiousTransaction]
  exact ⟨history, (settles.failed _ failed).1, settles.gone, by decide⟩

end Postgres

end Polyquery
