import Polyquery.Proofs.Database.Refusing
import Polyquery.Proofs.Mysql.Upsert

/-!
# Refused rows in MySQL

Statements are refused for what they say only before they are written: a statement that is
written fails by its values or by the answer of the server.  A server that has nothing to
say takes every run that can be written.
-/

namespace Polyquery.Mysql

open Session (UnsentIfUnwritten Written)
open UpsertRun (EmptyLate Refuses StoresFrom)

variable {table : Table} {rows : List Row}

theorem run_runStatement (statement : Statement) (link : Link) :
    (runStatement statement).run link =
      if statement.values.all canSend then
        ((link.replies.headD Server.Reply.plain).mapError Error.database, { link with
          replies := link.replies.tail
          sent := link.sent ++ [⟨statement.text, statement.values⟩] })
      else (.error (.database .unencodable), link) := by
  cases sends : statement.values.all canSend with
  | false => simp [runStatement, sends]
  | true =>
      simp only [runStatement, sends, Bool.not_true, Bool.false_eq_true, if_false, if_true,
        Session.run_bind, Session.run_get, Session.run_set]
      cases link.replies.headD Server.Reply.plain <;> rfl

theorem written_acquire : acquire.Written := by
  intro link after failure ran
  simp only [acquire, Session.run_bind, Session.run_get] at ran
  split at ran
  · cases ran
    exact fun cause => nofun
  · cases ran

theorem run_acquire (link : Link) : (acquire.run link).2 = link := by
  simp only [acquire, Session.run_bind, Session.run_get]
  split <;> rfl

theorem written_runStatement (statement : Statement) : (runStatement statement).Written := by
  intro link after failure ran
  rw [run_runStatement] at ran
  split at ran
  · exact Session.ne_generation_of_mapError (congrArg Prod.fst ran)
  · cases ran
    exact fun cause => nofun

theorem refuses_storeRun (table : Table) : Refuses table (storeRun table) where
  empty run empty := by
    rw [storeRun, run.drafts_eq_error .mysql table empty]
    rfl
  written run some := by
    rw [storeRun_eq some]
    exact (Session.failsOnly_mapM fun statement _ => written_runStatement statement).map _

theorem written_execute (generated : Generated) (handle : Option Handle) :
    (database.execute generated handle).Written := by
  apply (Database.written_rejectHandle title handle).bind
  intro _
  cases generated with
  | sql statements =>
      apply written_acquire.bind
      intro _
      apply Session.FailsOnly.bind
      · apply Session.failsOnly_mapM
        intro statement _
        exact (written_runStatement statement).map _
      · intro rows
        exact Session.failsOnly_pure _
  | elastic => exact Session.failsOnly_throw fun cause => nofun

theorem unsent_upsert (early : ¬ EmptyLate table rows) (handle : Option Handle) :
    (database.upsert table rows handle).UnsentIfUnwritten Link.sent := by
  apply Session.unsent_bind
  · exact fun link => congrArg Link.sent (Database.run_rejectHandle title handle link)
  intro _
  apply Session.unsent_bind
  · exact fun link => congrArg Link.sent (run_acquire link)
  intro _
  exact Session.unsent_map (UpsertRun.unsent_storeRuns (refuses_storeRun table) early) _

/-- The fields of rows are no dates, so that all of them can be sent. -/
theorem canSend_values (run : UpsertRun) : run.values.all canSend = true := by
  rw [List.all_eq_true]
  intro value mem
  obtain ⟨row, -, inRow⟩ := List.mem_flatMap.mp mem
  obtain ⟨column, -, rfl⟩ := List.mem_map.mp inRow
  cases Fields.find? column row with
  | none => rfl
  | some field =>
      cases field with
      | num n =>
          cases n with
          | int n =>
              simp only [Option.map_some, Option.getD_some, Value.ofJson]
              split <;> rfl
          | float x => rfl
      | _ => rfl

/-- A server that has nothing to say takes every run that can be written. -/
theorem storesFrom_silent (table : Table) :
    StoresFrom (fun link => link.replies = []) Link.sent (storeRun table) := by
  intro run some
  rw [storeRun_eq some]
  apply (Session.sends_mapM (List.cons_ne_nil _ _) _).map
  intro statement mem link silent
  have sends : statement.values.all canSend = true := by
    rw [List.mem_singleton.mp mem]
    exact canSend_values run
  rw [run_runStatement, if_pos sends, silent]
  exact ⟨_, _, rfl, rfl, by simp⟩

/-- The first run has been sent to an open connection when a later one is refused. -/
theorem sent_upsert (late : EmptyLate table rows) :
    ¬ (database.upsert table rows none).UnsentIfUnwritten Link.sent := by
  intro unsent
  obtain ⟨cause, after, ran, sent⟩ :=
    UpsertRun.sent_storeRuns (refuses_storeRun table) (storesFrom_silent table) late
      ⟨[], false, []⟩ rfl
  have stored : (database.upsert table rows none).run ⟨[], false, []⟩ =
      (.error (.generation cause), after) := by
    change Session.run (List.mapM (storeRun table) _ >>= fun _ => _) _ = _
    rw [Session.run_bind, ran]
  exact sent (unsent stored)

end Polyquery.Mysql
