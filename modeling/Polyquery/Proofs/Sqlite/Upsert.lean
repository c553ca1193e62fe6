import Mathlib
import Polyquery.Proofs.Database.Storing
import Polyquery.Sqlite.Database

/-!
# Upserts in SQLite

Storing rows asks the engine for the statements that are generated for them, run by run.
Behind the rows of a run that lacks the key the engine has to tell a whole number, or else
storing stops there.  As long as it is one wherever the engine is asked for it, running the
statements asks the engine the same.
-/

namespace Polyquery.Sqlite

/-! ## What an engine is asked -/

section

variable {σ : Type}

/-- What was asked between two states of a client. -/
def Client.since (before after : Client σ) : List Exchange :=
  after.exchanges.drop before.exchanges.length

/-- The client forgets nothing that it has asked. -/
def Client.Grows (before after : Client σ) : Prop :=
  before.exchanges <+: after.exchanges

namespace Client

variable {first second third : Client σ}

theorem grows_refl (client : Client σ) : Grows client client :=
  List.prefix_refl _

theorem grows_trans (first second third : Client σ) (one : Grows first second)
    (two : Grows second third) : Grows first third :=
  List.IsPrefix.trans one two

theorem since_append (one : Grows first second) (two : Grows second third) :
    since first third = since first second ++ since second third := by
  obtain ⟨new, asked⟩ := one
  obtain ⟨more, askedMore⟩ := two
  simp [since, ← askedMore, ← asked]

end Client

/-- The statement that asks for the number of the last row. -/
def lastRowIdStatement : Statement :=
  ⟨"SELECT last_insert_rowid() AS id;", []⟩

/-- Wherever the engine tells the number of the last row, it is a whole number. -/
def Exchange.Numbered (exchange : Exchange) : Prop :=
  exchange.statement = lastRowIdStatement → ∀ rows, exchange.answer = .ok rows →
    ∃ last, rowId rows = .ok last

namespace Engine

/-- An engine that gives the answers of a list, one after the other. -/
def scripted : Engine (List Answer) where
  run _ _ answers := (answers.headD (.ok []), answers.tail)
  tables _ := .ok []

variable (engine : Engine σ)

theorem run_runStatement (statement : Statement) (client : Client σ) :
    ∃ answer store, (engine.runStatement statement).run client =
      (answer.mapError Error.database,
        { client with
          store := store, exchanges := client.exchanges ++ [⟨statement, answer⟩] }) :=
  ⟨_, _, rfl⟩

theorem grows_runStatement (statement : Statement) :
    (engine.runStatement statement).Within Client.Grows := by
  intro client
  obtain ⟨answer, store, ran⟩ := engine.run_runStatement statement client
  rw [ran]
  exact List.prefix_append _ _

/-- A statement that succeeds is written down with its rows. -/
theorem mem_since_of_runStatement {statement : Statement} {rows : List Row}
    {client after : Client σ}
    (ran : (engine.runStatement statement).run client = (.ok rows, after)) :
    (⟨statement, .ok rows⟩ : Exchange) ∈ client.since after := by
  obtain ⟨answer, store, asked⟩ := engine.run_runStatement statement client
  rw [asked] at ran
  cases answer with
  | error failure => cases ran
  | ok rows =>
      cases ran
      simp [Client.since]

end Engine

end

/-! ## Runs of rows -/

namespace Engine

variable {σ : Type} (engine : Engine σ) {table : Table} {run : UpsertRun}

/-- The keys in the answers to the statements of a run. -/
def collect (table : Table) (run : UpsertRun) (answers : List (List Row)) :
    Except DatabaseFailure (List Json) :=
  if table.singleKey?.isSome && !run.hasKey table then
    match answers with
    | [_, selected] => (rowId selected).map fun last => keysUpTo last run.rows.length
    | _ => .ok []
  else .ok []

theorem storing_ne_lastRowId :
    (⟨run.pieces .sqlite table, run.values⟩ : Draft) ≠ UpsertRun.lastRowId := by
  intro same
  have words := congrArg (fun draft => draft.pieces.head?) same
  simp [UpsertRun.pieces, UpsertRun.valuesPieces, UpsertRun.lastRowId, Dialect.keyword] at words

theorem runDraft_storing :
    engine.runDraft run ⟨run.pieces .sqlite table, run.values⟩ = (fun _ => []) <$>
      engine.runStatement (Draft.statement .sqlite .placeholders
        ⟨run.pieces .sqlite table, run.values⟩) := by
  rw [runDraft]
  simp only [if_neg storing_ne_lastRowId, bind_pure_comp]

theorem runDraft_lastRowId :
    engine.runDraft run UpsertRun.lastRowId = (do
      let selected ← engine.runStatement lastRowIdStatement
      demand ((rowId selected).map fun last => keysUpTo last run.rows.length)) := by
  have made (selected : List Row) :
      (do return keysUpTo (← demand (rowId selected)) run.rows.length :
        Session (Client σ) (List Json)) =
        demand ((rowId selected).map fun last => keysUpTo last run.rows.length) := by
    cases rowId selected <;> rfl
  simp only [← made]
  rfl

/-- The answers to the statements of a run. -/
def askRun (table : Table) (run : UpsertRun) : Session (Client σ) (List (List Row)) :=
  (run.statements .sqlite table).mapM engine.runStatement

/-- The keys of a run are what the engine tells behind its rows. -/
theorem storeRun_eq (some : run.columns ≠ []) :
    engine.storeRun table run = (do demand (collect table run (← engine.askRun table run))) := by
  have asked : Draft.statement .sqlite .placeholders UpsertRun.lastRowId = lastRowIdStatement := rfl
  rw [storeRun, run.drafts_eq .sqlite table some, Session.ofResult_ok, pure_bind, askRun]
  by_cases lacks : table.singleKey?.isSome && !run.hasKey table
  · simp only [UpsertRun.statements, UpsertRun.followUp, collect, if_pos lacks]
    simp [List.mapM_cons, runDraft_storing, runDraft_lastRowId, asked]
  · simp only [UpsertRun.statements, UpsertRun.followUp, collect, if_neg lacks]
    simp [List.mapM_cons, runDraft_storing]
    rfl

/-! ## Batches of runs -/

/-- The answers to the statements of some runs, run by run. -/
def ask (table : Table) (runs : List UpsertRun) :
    Session (Client σ) (List (List (List Row))) := do
  acquire
  runs.mapM (engine.askRun table)

/-- Running the statements of some runs asks for them. -/
theorem runStatements_eq (runs : List UpsertRun) :
    engine.runStatements (runs.map (UpsertRun.statements .sqlite table)).flatten =
      (fun answers => answers.flatten.flatten) <$> engine.ask table runs := by
  rw [runStatements, ask]
  simp only [bind_pure_comp, mapM_flatten_map, map_bind, Functor.map_map]
  rfl

variable {engine} {runs : List UpsertRun} {client after : Client σ}

/-- If the engine answers everything, the keys are collected from the answers. -/
theorem run_storeRuns (some : ∀ run ∈ runs, run.columns ≠ []) {answers : List (List (List Row))}
    {collected : List (List Json)}
    (ran : (runs.mapM (engine.askRun table)).run client = (.ok answers, after))
    (told : List.zipWith (collect table) runs answers = collected.map .ok) :
    (runs.mapM (engine.storeRun table)).run client = (.ok collected, after) := by
  induction runs generalizing client answers collected with
  | nil =>
      cases ran
      rw [List.zipWith_nil_left, eq_comm, List.map_eq_nil_iff] at told
      rw [told]
      rfl
  | cons run rest ih =>
      obtain ⟨someRun, someRest⟩ := List.forall_mem_cons.mp some
      obtain ⟨first, others, middle, ranFirst, ranOthers, rfl⟩ :=
        Session.run_mapM_cons_eq_ok.mp ran
      cases collected with
      | nil => cases told
      | cons ids more =>
          rw [List.zipWith_cons_cons, List.map_cons, List.cons.injEq] at told
          obtain ⟨toldFirst, toldOthers⟩ := told
          have stored : (engine.storeRun table run).run client = (.ok ids, middle) := by
            rw [storeRun_eq engine someRun, Session.run_bind_eq_ok]
            exact ⟨first, middle, ranFirst, by rw [toldFirst]; rfl⟩
          exact Session.run_mapM_cons_eq_ok.mpr
            ⟨ids, more, middle, stored, ih someRest ranOthers toldOthers, rfl⟩

theorem grows_askRun (run : UpsertRun) : (engine.askRun table run).Within Client.Grows :=
  Session.within_mapM Client.grows_refl Client.grows_trans engine.grows_runStatement _

theorem grows_storeRuns (some : ∀ run ∈ runs, run.columns ≠ []) :
    (runs.mapM (engine.storeRun table)).Within Client.Grows := by
  rw [mapM_congr_of_mem fun run mem => storeRun_eq engine (some run mem)]
  apply Session.within_mapM Client.grows_refl Client.grows_trans
  intro run
  apply (grows_askRun run).bind Client.grows_trans
  intro answers
  exact Session.within_ofResult Client.grows_refl _

/-- Where the engine tells whole numbers, the keys of a run can be collected. -/
theorem exists_collect_eq_ok {answers : List (List Row)}
    (ran : (engine.askRun table run).run client = (.ok answers, after))
    (numbered : ∀ exchange ∈ client.since after, exchange.Numbered) :
    ∃ ids, collect table run answers = .ok ids := by
  unfold collect
  by_cases lacks : table.singleKey?.isSome && !run.hasKey table
  · rw [if_pos lacks]
    rw [askRun, UpsertRun.statements, UpsertRun.followUp, if_pos lacks] at ran
    obtain ⟨stored, _, middle, ranStored, ranRest, rfl⟩ := Session.run_mapM_cons_eq_ok.mp ran
    obtain ⟨selected, _, last, ranSelected, ended, rfl⟩ := Session.run_mapM_cons_eq_ok.mp ranRest
    cases ended
    have stores := (engine.grows_runStatement _).of_run ranStored
    have selects := (engine.grows_runStatement _).of_run ranSelected
    have asked : (⟨lastRowIdStatement, .ok selected⟩ : Exchange) ∈ client.since after := by
      rw [Client.since_append stores selects, List.mem_append]
      exact .inr (engine.mem_since_of_runStatement ranSelected)
    obtain ⟨number, told⟩ := numbered _ asked rfl selected rfl
    exact ⟨_, congrArg (Except.map fun last => keysUpTo last run.rows.length) told⟩
  · rw [if_neg lacks]
    exact ⟨[], rfl⟩

/-- Where the engine tells whole numbers, storing runs asks it for their statements. -/
theorem alike_storeRuns (some : ∀ run ∈ runs, run.columns ≠ [])
    (numbered : ∀ exchange ∈ client.since ((runs.mapM (engine.storeRun table)).run client).2,
      exchange.Numbered) :
    Session.Alike (runs.mapM (engine.storeRun table)) (runs.mapM (engine.askRun table)) client := by
  induction runs generalizing client with
  | nil => exact ⟨rfl, rfl⟩
  | cons run rest ih =>
      obtain ⟨someRun, someRest⟩ := List.forall_mem_cons.mp some
      have stores : (run :: rest).mapM (engine.storeRun table) =
          engine.askRun table run >>= fun answers => demand (collect table run answers) >>=
            fun ids => (ids :: ·) <$> rest.mapM (engine.storeRun table) := by
        simp only [List.mapM_cons, storeRun_eq engine someRun, bind_assoc, bind_pure_comp]
      rw [stores] at numbered ⊢
      rw [List.mapM_cons]
      apply Session.Alike.bind
      intro answers middle ran
      rw [Session.run_bind, ran] at numbered
      have before := (grows_askRun run).of_run ran
      have behind : Session.Within Client.Grows (demand (collect table run answers) >>=
          fun ids => (ids :: ·) <$> rest.mapM (engine.storeRun table)) :=
        (Session.within_ofResult Client.grows_refl _).bind Client.grows_trans
          fun ids => (grows_storeRuns someRest).map
      -- whatever follows, the log keeps what the first run asked, so its keys can be collected
      rw [Client.since_append before (behind middle), List.forall_mem_append] at numbered
      obtain ⟨ids, told⟩ := exists_collect_eq_ok ran numbered.1
      have demanded : (demand (collect table run answers) : Session (Client σ) (List Json)) =
          pure ids := by
        rw [told]
        rfl
      rw [demanded, pure_bind] at numbered ⊢
      rw [Session.run_map] at numbered
      rw [bind_pure_comp]
      exact (ih someRest numbered.2).map _ _

/-! ## Storing rows -/

theorem run_acquire (client : Client σ) : Session.run acquire client =
    (if client.closed then .error (.database .poolClosed) else .ok (), client) := by
  simp only [acquire, Session.run_bind, Session.run_get]
  split <;> rfl

variable {rows : List Row}

/-- Where the engine tells whole numbers, storing rows asks it for the statements of their
runs. -/
theorem alike_store (some : ∀ run ∈ UpsertRun.partition table rows, run.columns ≠ [])
    (numbered : ∀ exchange ∈ client.since ((engine.store table rows).run client).2,
      exchange.Numbered) :
    Session.Alike (engine.store table rows) (engine.ask table (UpsertRun.partition table rows))
      client := by
  have stores : engine.store table rows = acquire >>= fun _ =>
      (fun keys => table.assignKeys rows keys.flatten) <$>
        (UpsertRun.partition table rows).mapM (engine.storeRun table) := by
    simp only [store, bind_pure_comp]
  rw [stores] at numbered ⊢
  rw [ask, ← id_map (List.mapM (engine.askRun table) _)]
  apply Session.Alike.bind
  intro _ after acquired
  have still : after = client := by
    rw [run_acquire, Prod.mk.injEq] at acquired
    exact acquired.2.symm
  rw [Session.run_bind, acquired, still] at numbered
  simp only [Session.run_map] at numbered
  rw [still]
  exact (alike_storeRuns some numbered).map _ _

theorem alike_upsert (present : ∀ row ∈ rows, table.presentColumns row ≠ []) {σ : Type}
    (engine : Engine σ) (handle : Option Handle) (client : Client σ)
    (numbered : ∀ exchange ∈ client.since ((engine.database.upsert table rows handle).run client).2,
      exchange.Numbered) : engine.database.UpsertsAlike table rows handle client := by
  refine ⟨_, Database.generate_upsert rfl present, ?_⟩
  cases handle with
  | some handle => exact ⟨rfl, rfl⟩
  | none =>
      change Session.Alike (engine.runStatements _) (engine.store table rows) client
      rw [engine.runStatements_eq, ← id_map (engine.store table rows)]
      exact (alike_store (Database.columns_ne_nil present) numbered).symm.map _ _

/-- The keys in the answers; none if the engine told no whole number. -/
def collected (table : Table) (run : UpsertRun) (answers : List (List Row)) : List Json :=
  ((collect table run answers).toOption).getD []

/-- If the engine answers everything, and with whole numbers where it is asked for them,
the rows get the keys in the answers. -/
theorem run_store (some : ∀ run ∈ UpsertRun.partition table rows, run.columns ≠ [])
    {answers : List (List (List Row))}
    (ran : (engine.ask table (UpsertRun.partition table rows)).run client = (.ok answers, after))
    (told : ∀ asked ∈ (UpsertRun.partition table rows).zip answers,
      ∃ ids, collect table asked.1 asked.2 = .ok ids) :
    (engine.store table rows).run client = (.ok (table.assignKeys rows
      (List.zipWith (collected table) (UpsertRun.partition table rows) answers).flatten), after) := by
  have gathers : List.zipWith (collect table) (UpsertRun.partition table rows) answers =
      (List.zipWith (collected table) (UpsertRun.partition table rows) answers).map .ok := by
    rw [List.map_zipWith, ← List.map_uncurry_zip_eq_zipWith, ← List.map_uncurry_zip_eq_zipWith]
    apply List.map_congr_left
    intro asked mem
    obtain ⟨ids, collects⟩ := told asked mem
    simp only [Function.uncurry, collected, collects]
    rfl
  obtain ⟨_, middle, acquired, ranRuns⟩ := Session.run_bind_eq_ok.mp ran
  rw [store, Session.run_bind_eq_ok]
  refine ⟨_, middle, acquired, ?_⟩
  rw [Session.run_bind_eq_ok]
  exact ⟨_, after, run_storeRuns some ranRuns gathers, rfl⟩

end Engine

/-! ## Keys -/

/-- The keys that the answers assign to the rows of a run: they end with the number that
the engine tells behind the rows, and have 64 bits. -/
def Assigned (run : UpsertRun) (answers : List (List Row)) (ids : List Json) : Prop :=
  ∃ stored selected last, answers = [stored, selected] ∧ rowId selected = .ok last ∧
    -2 ^ 63 ≤ last - run.rows.length + 1 ∧ last < 2 ^ 63 ∧
    ids = (List.range run.rows.length).map fun (p : Nat) =>
      .int (last - run.rows.length + 1 + p)

variable {table : Table} {key : String} {run : UpsertRun} {answers : List (List Row)}

theorem collect_of_assigned (keys : table.primaryKeys = [key]) (lacks : key ∉ run.columns)
    {ids : List Json} (assigned : Assigned run answers ids) :
    Engine.collect table run answers = .ok ids := by
  obtain ⟨stored, selected, last, rfl, told, -, -, rfl⟩ := assigned
  rw [Engine.collect, if_pos ((UpsertRun.assigned_iff_not_mem keys).mpr lacks)]
  exact congrArg (Except.map fun last => keysUpTo last run.rows.length) told

theorem collect_of_carries (keys : table.primaryKeys = [key]) (carries : key ∈ run.columns) :
    Engine.collect table run answers = .ok [] := by
  unfold Engine.collect
  rw [if_neg]
  exact mt (UpsertRun.assigned_iff_not_mem keys).mp (not_not_intro carries)

theorem collects (keys : table.primaryKeys = [key]) :
    UpsertRun.Collects key Assigned (Engine.collected table) where
  lacking := by
    intro run answers ids lacks assigned
    constructor
    · rw [Engine.collected, collect_of_assigned keys lacks assigned]
      rfl
    · obtain ⟨stored, selected, last, -, -, -, -, rfl⟩ := assigned
      simp
  carrying := by
    intro run answers carries
    rw [Engine.collected, collect_of_carries keys carries]
    rfl

theorem collect_of_others (others : ∀ key, table.primaryKeys ≠ [key]) :
    Engine.collect table run answers = .ok [] := by
  unfold Engine.collect
  rw [if_neg]
  intro assigns
  obtain ⟨key, keys, -⟩ := UpsertRun.lacksKey_iff.mpr assigns
  exact others key keys

/-- Wherever keys are assigned, the engine told a whole number. -/
theorem exists_collect_of_filled (keys : table.primaryKeys = [key]) {runs : List UpsertRun}
    {answers : List (List (List Row))} {filled : List Row}
    (becomes : UpsertRun.Filled key Assigned runs answers filled) :
    ∀ asked ∈ runs.zip answers, ∃ ids, Engine.collect table asked.1 asked.2 = .ok ids := by
  induction becomes with
  | nil => simp
  | lacking lacks assigned others ih =>
      rw [List.zip_cons_cons, List.forall_mem_cons]
      exact ⟨⟨_, collect_of_assigned keys lacks assigned⟩, ih⟩
  | carrying carries others ih =>
      rw [List.zip_cons_cons, List.forall_mem_cons]
      exact ⟨⟨[], collect_of_carries keys carries⟩, ih⟩

theorem assigns_upsert {rows : List Row} (present : ∀ row ∈ rows, table.presentColumns row ≠ [])
    {σ : Type} (engine : Engine σ) :
    engine.database.Assigns none engine.ask Assigned table rows where
  only := by
    intro key client after answers filled keys ran becomes
    change (engine.store table rows).run client = _
    rw [Engine.run_store (Database.columns_ne_nil present) ran
      (exists_collect_of_filled keys becomes),
      becomes.assignKeys_eq (.partition table rows) keys (collects keys)]
  others := by
    intro client after answers others ran
    have none : ∀ asked ∈ (UpsertRun.partition table rows).zip answers,
        ∃ ids, Engine.collect table asked.1 asked.2 = .ok ids :=
      fun _ _ => ⟨[], collect_of_others others⟩
    change (engine.store table rows).run client = _
    rw [Engine.run_store (Database.columns_ne_nil present) ran none,
      Table.assignKeys_eq_self others]

end Polyquery.Sqlite
