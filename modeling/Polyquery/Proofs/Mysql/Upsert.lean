import Mathlib
import Polyquery.Mysql.Database
import Polyquery.Proofs.Database.Storing

/-!
# Upserts in MySQL

Storing rows and running the statements that are generated for them ask the server the
same.  Only what is made of the answers differs: the keys for the rows, or the rows of the
results.
-/

namespace Polyquery.Mysql

variable {table : Table} {rows : List Row}

/-- The answers to the statements of some runs, run by run. -/
def ask (table : Table) (runs : List UpsertRun) :
    Session Link (List (List (Server.Answer ColumnType))) := do
  acquire
  runs.mapM fun run => (run.statements .mysql table).mapM runStatement

/-- The keys in the answers to the statements of a run. -/
def collect (table : Table) (run : UpsertRun) (answers : List (Server.Answer ColumnType)) :
    List Json :=
  (answers.map fun answer =>
    if table.singleKey?.isSome && !run.hasKey table then keysFrom answer.assigned run.rows.length
    else []).flatten

theorem storeRun_eq {run : UpsertRun} (some : run.columns ≠ []) :
    storeRun table run =
      collect table run <$> (run.statements .mysql table).mapM runStatement := by
  have each : (fun draft : Draft => do
        let answer ← runStatement (draft.statement .mysql .placeholders)
        if table.singleKey?.isSome && !run.hasKey table then
          return keysFrom answer.assigned run.rows.length
        else return []) =
      fun draft => (fun answer : Server.Answer ColumnType =>
        if table.singleKey?.isSome && !run.hasKey table then
          keysFrom answer.assigned run.rows.length
        else []) <$> runStatement (draft.statement .mysql .placeholders) := by
    funext draft
    split <;> rfl
  rw [storeRun, run.drafts_eq .mysql table some, Session.ofResult_ok, pure_bind, each,
    mapM_map_eq_map, UpsertRun.statements, List.mapM_map]
  rw [bind_pure_comp, ← comp_map]
  rfl

/-- Storing rows asks for the statements of their runs. -/
theorem store_eq (some : ∀ run ∈ UpsertRun.partition table rows, run.columns ≠ []) :
    store table rows = (fun answers => table.assignKeys rows
      (List.zipWith (collect table) (UpsertRun.partition table rows) answers).flatten) <$>
        ask table (UpsertRun.partition table rows) := by
  rw [store, ask, mapM_congr_of_mem fun run mem => storeRun_eq (some run mem), mapM_map_eq_zipWith]
  simp only [map_bind, bind_pure_comp, Functor.map_map]

theorem run_store (some : ∀ run ∈ UpsertRun.partition table rows, run.columns ≠ [])
    {link after : Link} {answers : List (List (Server.Answer ColumnType))}
    (ran : (ask table (UpsertRun.partition table rows)).run link = (.ok answers, after)) :
    (store table rows).run link = (.ok (table.assignKeys rows
      (List.zipWith (collect table) (UpsertRun.partition table rows) answers).flatten), after) := by
  rw [store_eq some, Session.run_map, ran]
  rfl

/-- Running the statements of some runs asks for them. -/
theorem runStatements_eq (runs : List UpsertRun) :
    runStatements (runs.map (UpsertRun.statements .mysql table)).flatten = (fun answers =>
      (answers.flatten.map fun answer => answer.set.toRows ColumnType.read).flatten) <$>
        ask table runs := by
  rw [runStatements, ask]
  simp only [bind_pure_comp, mapM_map_eq_map, mapM_flatten_map, map_bind, Functor.map_map,
    List.map_flatten]

theorem alike_upsert (present : ∀ row ∈ rows, table.presentColumns row ≠ [])
    (handle : Option Handle) (link : Link) : database.UpsertsAlike table rows handle link := by
  refine ⟨_, Database.generate_upsert rfl present, ?_⟩
  change Session.Alike (Database.rejectHandle title handle >>= fun _ => runStatements _)
    (Database.rejectHandle title handle >>= fun _ => store table rows) link
  apply Session.Alike.bind
  intro _ after _
  rw [runStatements_eq, store_eq (Database.columns_ne_nil present)]
  exact (Session.alike_refl _ after).map _ _

/-! ## Keys -/

/-- The keys that the answers assign to the rows of a run: they count up from the one that
the server tells, and have 64 bits. -/
def Assigned (run : UpsertRun) (answers : List (Server.Answer ColumnType)) (ids : List Json) :
    Prop :=
  ∃ answer, answers = [answer] ∧ answer.assigned + run.rows.length - 1 < 2 ^ 64 ∧
    ids = (List.range run.rows.length).map fun p => .nat (answer.assigned + p)

theorem collects {key : String} (keys : table.primaryKeys = [key]) :
    UpsertRun.Collects key Assigned (collect table) where
  lacking := by
    rintro run _ _ lacks ⟨answer, rfl, -, rfl⟩
    have assigns := (UpsertRun.assigned_iff_not_mem keys).mpr lacks
    constructor
    · simp only [collect, if_pos assigns, List.map_cons, List.map_nil, List.flatten_cons,
        List.flatten_nil, List.append_nil]
      rfl
    · simp
  carrying := by
    intro run answers carries
    have keeps := mt (UpsertRun.assigned_iff_not_mem keys).mp (not_not_intro carries)
    simp only [collect, if_neg keeps]
    simp

theorem assigns_upsert (present : ∀ row ∈ rows, table.presentColumns row ≠ []) :
    database.Assigns none ask Assigned table rows :=
  Database.assigns_of_run collects fun ran => run_store (Database.columns_ne_nil present) ran

end Polyquery.Mysql
