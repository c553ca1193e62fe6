import Polyquery.Proofs.Database.Refusing
import Polyquery.Proofs.Sqlite.Upsert

/-!
# Refused rows in SQLite

A statement that is written fails by the answer of the engine, and so does a run for which
the engine tells no number.  An engine that always tells one takes every run that can be
written.
-/

namespace Polyquery.Sqlite.Engine

open Session (UnsentIfUnwritten Written)
open UpsertRun (EmptyLate Refuses StoresFrom)

variable {table : Table} {rows : List Row}

variable {σ : Type} (engine : Engine σ)

theorem written_demand {α : Type} (answer : Except DatabaseFailure α) :
    (demand answer : Session (Client σ) α).Written := by
  intro client after failure ran
  exact Session.ne_generation_of_mapError (congrArg Prod.fst ran)

theorem written_acquire : (acquire : Session (Client σ) Unit).Written := by
  intro client after failure ran
  rw [run_acquire] at ran
  split at ran
  · cases ran
    exact fun cause => nofun
  · cases ran

theorem written_runStatement (statement : Statement) : (engine.runStatement statement).Written := by
  intro client after failure ran
  exact Session.ne_generation_of_mapError (congrArg Prod.fst ran)

theorem refuses_storeRun (table : Table) : Refuses table (engine.storeRun table) where
  empty run empty := by
    rw [storeRun, run.drafts_eq_error .sqlite table empty]
    rfl
  written run some := by
    rw [engine.storeRun_eq some]
    apply (Session.failsOnly_mapM fun statement _ => engine.written_runStatement statement).bind
    intro answers
    exact written_demand _

theorem written_execute (generated : Generated) (handle : Option Handle) :
    (engine.database.execute generated handle).Written := by
  apply (Database.written_rejectHandle title handle).bind
  intro _
  cases generated with
  | sql statements =>
      apply written_acquire.bind
      intro _
      apply (Session.failsOnly_mapM fun statement _ => engine.written_runStatement statement).bind
      intro rows
      exact Session.failsOnly_pure _
  | elastic => exact Session.failsOnly_throw fun cause => nofun

theorem unsent_upsert (early : ¬ EmptyLate table rows) (handle : Option Handle) :
    (engine.database.upsert table rows handle).UnsentIfUnwritten Client.exchanges := by
  apply Session.unsent_bind
  · exact fun client => congrArg Client.exchanges (Database.run_rejectHandle title handle client)
  intro _
  apply Session.unsent_bind
  · intro client
    rw [run_acquire]
  intro _
  exact Session.unsent_map (UpsertRun.unsent_storeRuns (engine.refuses_storeRun table) early) _

/-- An engine that tells the number one whenever it is asked. -/
def telling : Engine Unit where
  run _ _ _ := (.ok [[("id", .nat 1)]], ())
  tables _ := .ok []

theorem storesFrom_telling (table : Table) :
    StoresFrom (fun client => ∀ exchange ∈ client.exchanges, exchange.Numbered) Client.exchanges
      (telling.storeRun table) := by
  intro run some client numbered
  have asks : (telling.askRun table run).Sends
      (fun client => ∀ exchange ∈ client.exchanges, exchange.Numbered) Client.exchanges := by
    apply Session.sends_mapM (List.cons_ne_nil _ _)
    intro statement _ client numbered
    refine ⟨_, _, rfl, ?_, by simp⟩
    refine List.forall_mem_append.mpr ⟨numbered, ?_⟩
    rw [List.forall_mem_singleton]
    intro _ rows told
    cases told
    exact ⟨1, rfl⟩
  obtain ⟨answers, after, ran, numberedThen, grown⟩ := asks client numbered
  obtain ⟨ids, told⟩ := exists_collect_eq_ok ran fun exchange mem =>
    numberedThen exchange (List.mem_of_mem_drop mem)
  refine ⟨ids, after, ?_, numberedThen, grown⟩
  rw [telling.storeRun_eq some, Session.run_bind, ran]
  simp only [told]
  rfl

/-- The first run has been sent to an open connection when a later one is refused. -/
theorem sent_upsert (late : EmptyLate table rows) :
    ¬ (telling.database.upsert table rows none).UnsentIfUnwritten Client.exchanges := by
  intro unsent
  obtain ⟨cause, after, ran, sent⟩ :=
    UpsertRun.sent_storeRuns (telling.refuses_storeRun table) (storesFrom_telling table) late
      ⟨"cinema", (), false, []⟩ nofun
  have stored : (telling.database.upsert table rows none).run ⟨"cinema", (), false, []⟩ =
      (.error (.generation cause), after) := by
    change Session.run (List.mapM (telling.storeRun table) _ >>= fun _ => _) _ = _
    rw [Session.run_bind, ran]
  exact sent (unsent stored)

end Polyquery.Sqlite.Engine
