import Polyquery.Proofs.Database.Refusing
import Polyquery.Proofs.Postgres.Upsert

/-!
# Refused rows in PostgreSQL

A statement that is written fails by the answers of the server, and nothing is sent to find
a connection for it or to give one back.  A server that has nothing to say takes every run
that can be written.
-/

namespace Polyquery.Postgres

open Session (UnsentIfUnwritten Written)
open UpsertRun (EmptyLate Refuses StoresFrom)

variable {table : Table} {rows : List Row}

theorem written_call {α : Type} (act : Server → Except DatabaseFailure α × Server) :
    (Link.call act).Written := by
  intro link after failure ran
  rw [Link.run_call] at ran
  exact Session.ne_generation_of_mapError (congrArg Prod.fst ran)

theorem written_runStatement (connection : Nat) (statement : Statement) :
    (runStatement connection statement).Written := by
  have typed : (typed connection statement).Written := by
    rw [Postgres.typed]
    split
    · exact Session.failsOnly_pure _
    · apply (written_call _).bind
      intro types
      exact Session.failsOnly_pure _
  apply typed.bind
  intro text
  exact (written_call _).map _

theorem refuses_storeRun (connection : Nat) (table : Table) :
    Refuses table (storeRun connection table) where
  empty run empty := by
    rw [storeRun, run.drafts_eq_error .postgres table empty]
    rfl
  written run some := by
    rw [storeRun_eq some]
    apply Session.FailsOnly.map
    exact Session.failsOnly_mapM fun statement _ => written_runStatement connection statement

theorem written_acquire : Link.acquire.Written := by
  intro link after failure ran
  rcases link.acquire_cases with ⟨refusal, eq⟩ | ⟨_, _, -, eq⟩ | ⟨-, eq⟩
  all_goals
    rw [eq] at ran
    cases ran
  exact fun cause => nofun

theorem written_pinned (handle : Handle) : (Link.pinned handle).Written := by
  intro link after failure ran
  rw [Link.run_pinned] at ran
  cases held : link.held.lookup handle with
  | some connection =>
      rw [held] at ran
      cases ran
  | none =>
      rw [held] at ran
      cases ran
      exact fun cause => nofun

theorem written_on {α : Type} {action : Nat → Session Link α}
    (written : ∀ connection, (action connection).Written) (handle : Option Handle) :
    (Link.on handle action).Written := by
  cases handle with
  | some handle => exact (written_pinned handle).bind written
  | none =>
      intro link after failure ran
      rw [Link.on, Link.run_borrowing] at ran
      rcases acquired : Link.acquire.run link with ⟨refusal | connection, taken⟩
      · rw [acquired] at ran
        cases ran
        exact written_acquire acquired
      · rw [acquired] at ran
        have acted : ((action connection).run taken).1 = .error failure := congrArg Prod.fst ran
        exact written connection (Prod.ext acted rfl)

theorem written_execute (generated : Generated) (handle : Option Handle) :
    (database.execute generated handle).Written := by
  cases generated with
  | sql statements =>
      apply written_on
      intro connection
      apply Session.FailsOnly.map
      exact Session.failsOnly_mapM fun statement _ => written_runStatement connection statement
  | elastic => exact Session.failsOnly_throw fun cause => nofun

/-- Nothing is sent to find a connection, and nothing to give it back. -/
theorem unsent_on {α : Type} {action : Nat → Session Link α}
    (unsent : ∀ connection, (action connection).UnsentIfUnwritten fun link => link.server.sent)
    (handle : Option Handle) :
    (Link.on handle action).UnsentIfUnwritten fun link => link.server.sent := by
  cases handle with
  | some handle =>
      refine Session.unsent_bind (fun link => ?_) unsent
      rw [Link.run_pinned]
      cases link.held.lookup handle <;> rfl
  | none =>
      intro link last cause ran
      rw [Link.on, Link.run_borrowing] at ran
      rcases acquired : Link.acquire.run link with ⟨refusal | connection, taken⟩
      · rw [acquired] at ran
        cases ran
        rw [Link.of_acquire_error acquired]
      · obtain ⟨idle, made, rfl⟩ := Link.of_acquire_ok acquired
        rw [acquired] at ran
        have acted : ((action connection).run _).1 = .error (.generation cause) :=
          congrArg Prod.fst ran
        have same := unsent connection (Prod.ext acted rfl)
        obtain rfl := congrArg Prod.snd ran
        exact same

theorem unsent_upsert (early : ¬ EmptyLate table rows) (handle : Option Handle) :
    (database.upsert table rows handle).UnsentIfUnwritten fun link => link.server.sent := by
  apply Session.unsent_map
  apply unsent_on
  intro connection
  exact Session.unsent_map (UpsertRun.unsent_storeRuns (refuses_storeRun connection table) early) _

theorem storesFrom_silent (connection : Nat) (table : Table) :
    StoresFrom (fun link => link.server.inferences = [] ∧ link.server.replies = [])
      (fun link => link.server.sent) (storeRun connection table) := by
  intro run some
  rw [storeRun_eq some]
  apply (Session.sends_mapM (List.cons_ne_nil _ _) _).map
  rintro statement _ link ⟨untold, silent⟩
  obtain ⟨after, ran, untoldThen, replies, grown⟩ :=
    @run_runStatement connection link statement ⟨⟨[], []⟩, 0⟩ untold (by rw [silent]; rfl)
  rw [silent] at replies
  exact ⟨_, after, ran, ⟨untoldThen, replies⟩, grown⟩

/-- The first run has been sent over a new connection when a later one is refused. -/
theorem sent_upsert (late : EmptyLate table rows) :
    ¬ (database.upsert table rows none).UnsentIfUnwritten fun link => link.server.sent := by
  intro unsent
  have acquired : Link.acquire.run (Link.unconnected (.fresh [] [] none)) =
      (.ok 1, { Link.unconnected (.fresh [] [] none) with made := 1 }) := rfl
  obtain ⟨cause, after, ran, sent⟩ :=
    UpsertRun.sent_storeRuns (refuses_storeRun 1 table) (storesFrom_silent 1 table) late
      { Link.unconnected (.fresh [] [] none) with made := 1 } ⟨rfl, rfl⟩
  have stored : (database.upsert table rows none).run (Link.unconnected (.fresh [] [] none)) =
      (.error (.generation cause), { after with idle := after.idle ++ [1] }) := by
    change Session.run (_ <$> Link.borrowing (storeRows table rows)) _ = _
    rw [Session.run_map, Link.run_borrowing, acquired]
    simp only [storeRows, Session.run_bind, ran]
    rfl
  have same := unsent stored
  exact sent same

end Polyquery.Postgres
