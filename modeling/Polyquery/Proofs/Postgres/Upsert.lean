import Polyquery.Proofs.Database.Storing
import Polyquery.Proofs.Postgres.Calls

/-!
# Upserts in PostgreSQL

Storing rows and running the statements that are generated for them ask the server the
same, on the same connection.  Only what is made of the answers differs.
-/

namespace Polyquery.Postgres

variable {table : Table} {rows : List Row}

/-- What is made of the value of an action does not matter to the connection. -/
theorem Link.on_map {α β : Type} (handle : Option Handle) (f : α → β)
    (action : Nat → Session Link α) :
    Link.on handle (fun connection => f <$> action connection) =
      f <$> Link.on handle action := by
  cases handle with
  | some handle => simp only [Link.on, map_bind]
  | none =>
      funext link
      change (borrowing _).run link = Session.run (f <$> borrowing action) link
      rw [Session.run_map, run_borrowing, run_borrowing]
      rcases acquire.run link with ⟨failure | connection, taken⟩
      · rfl
      · simp only [Session.run_map]

/-- A statement gets the next reply, if no types have to be told. -/
theorem run_runStatement {connection : Nat} {link : Link} {statement : Statement}
    {answer : Server.Answer ColumnType} (untold : link.server.inferences = [])
    (replied : link.server.replies.headD Server.Reply.plain = .ok answer) :
    ∃ after, (runStatement connection statement).run link =
        (.ok (answer.set.toRows ColumnType.read), after) ∧
      after.server.inferences = [] ∧ after.server.replies = link.server.replies.tail ∧
      link.server.sent.length < after.server.sent.length := by
  obtain ⟨text, middle, ranTyped, untoldThen, repliedThen, sent⟩ : ∃ text middle,
      (typed connection statement).run link = (.ok text, middle) ∧
        middle.server.inferences = [] ∧ middle.server.replies = link.server.replies ∧
          link.server.sent.length ≤ middle.server.sent.length := by
    rw [typed]
    split
    · exact ⟨statement.text, link, rfl, untold, rfl, Nat.le_refl _⟩
    · rw [Session.run_bind, Link.run_call]
      simp only [Server.infer, Server.log, untold, List.headD_nil, Except.mapError]
      exact ⟨_, _, rfl, rfl, rfl, by simp⟩
  rw [← repliedThen] at replied
  rw [runStatement, Session.run_bind, ranTyped, ← repliedThen]
  simp only [Session.run_bind, Link.run_call, Server.run, Server.answer, Server.log, replied,
    Except.mapError]
  refine ⟨_, rfl, untoldThen, rfl, ?_⟩
  simpa using Nat.lt_succ_of_le sent

/-- The answers to the statements of some runs, run by run, in a transaction or outside. -/
def ask (handle : Option Handle) (table : Table) (runs : List UpsertRun) :
    Session Link (List (List (List Row))) :=
  Link.on handle fun connection =>
    runs.mapM fun run => (run.statements .postgres table).mapM (runStatement connection)

/-- The keys in the answers to the statements of a run. -/
def collect (table : Table) (run : UpsertRun) (answers : List (List Row)) : List Json :=
  if table.singleKey?.isSome && !run.hasKey table then
    answers.flatten.map fun row => (Fields.find? "insertid" row).getD .null
  else []

theorem storeRun_eq {run : UpsertRun} (some : run.columns ≠ []) (connection : Nat) :
    storeRun connection table run =
      collect table run <$> (run.statements .postgres table).mapM (runStatement connection) := by
  have collected (answers : List (List Row)) :
      (if table.singleKey?.isSome && !run.hasKey table then
        (pure (answers.flatten.map fun row => (Fields.find? "insertid" row).getD .null) :
          Session Link (List Json))
      else pure []) = pure (collect table run answers) := by
    rw [collect]
    split <;> rfl
  rw [storeRun, run.drafts_eq .postgres table some, Session.ofResult_ok, pure_bind, runStatements]
  simp only [bind_pure_comp, bind_map_left, collected]
  rfl

/-- Storing rows asks for the statements of their runs. -/
theorem upsert_eq (some : ∀ run ∈ UpsertRun.partition table rows, run.columns ≠ [])
    (handle : Option Handle) :
    database.upsert table rows handle = (fun answers => table.assignKeys rows
      (List.zipWith (collect table) (UpsertRun.partition table rows) answers).flatten) <$>
        ask handle table (UpsertRun.partition table rows) := by
  have stored : storeRows table rows = fun connection =>
      (fun answers => (List.zipWith (collect table) (UpsertRun.partition table rows)
        answers).flatten) <$> (UpsertRun.partition table rows).mapM fun run =>
          (run.statements .postgres table).mapM (runStatement connection) := by
    funext connection
    rw [storeRows, mapM_congr_of_mem fun run mem => storeRun_eq (some run mem) connection,
      mapM_map_eq_zipWith, bind_pure_comp, Functor.map_map]
  change (do return table.assignKeys rows (← Link.on handle (storeRows table rows))) = _
  rw [stored, Link.on_map, bind_pure_comp, Functor.map_map]
  rfl

theorem run_upsert (some : ∀ run ∈ UpsertRun.partition table rows, run.columns ≠ [])
    {handle : Option Handle} {link after : Link} {answers : List (List (List Row))}
    (ran : (ask handle table (UpsertRun.partition table rows)).run link = (.ok answers, after)) :
    (database.upsert table rows handle).run link = (.ok (table.assignKeys rows
      (List.zipWith (collect table) (UpsertRun.partition table rows) answers).flatten), after) := by
  rw [upsert_eq some, Session.run_map, ran]
  rfl

/-- Running the statements of some runs asks for them. -/
theorem execute_eq (runs : List UpsertRun) (handle : Option Handle) :
    database.execute (.sql (runs.map (UpsertRun.statements .postgres table)).flatten) handle =
      (fun answers => answers.flatten.flatten) <$> ask handle table runs := by
  change Link.on handle (fun connection => runStatements connection _) = _
  rw [ask, ← Link.on_map]
  simp only [runStatements, bind_pure_comp, mapM_flatten_map, Functor.map_map]

theorem alike_upsert (present : ∀ row ∈ rows, table.presentColumns row ≠ [])
    (handle : Option Handle) (link : Link) : database.UpsertsAlike table rows handle link := by
  refine ⟨_, Database.generate_upsert rfl present, ?_⟩
  rw [execute_eq, upsert_eq (Database.columns_ne_nil present)]
  exact (Session.alike_refl _ link).map _ _

/-! ## Keys -/

/-- The keys that the answers assign to the rows of a run: each is in its own row. -/
def Assigned (run : UpsertRun) (answers : List (List Row)) (ids : List Json) : Prop :=
  ∃ returned, answers = [returned] ∧ returned.length = run.rows.length ∧
    returned.map (Fields.find? "insertid") = ids.map some

theorem collects {key : String} (keys : table.primaryKeys = [key]) :
    UpsertRun.Collects key Assigned (collect table) where
  lacking := by
    rintro run _ ids lacks ⟨returned, rfl, enough, found⟩
    have assigns := (UpsertRun.assigned_iff_not_mem keys).mpr lacks
    constructor
    · have values := congrArg (List.map fun id => id.getD Json.null) found
      rw [List.map_map, List.map_map] at values
      rw [collect, if_pos assigns, List.flatten_singleton]
      exact values.trans (List.map_id ids)
    · have lengths := congrArg List.length found
      rw [List.length_map, List.length_map] at lengths
      rw [← lengths, enough]
  carrying := by
    intro run answers carries
    have keeps := mt (UpsertRun.assigned_iff_not_mem keys).mp (not_not_intro carries)
    rw [collect, if_neg keeps]

theorem assigns_upsert (present : ∀ row ∈ rows, table.presentColumns row ≠ [])
    (handle : Option Handle) : database.Assigns handle (ask handle) Assigned table rows :=
  Database.assigns_of_run collects fun ran => run_upsert (Database.columns_ne_nil present) ran

end Polyquery.Postgres
