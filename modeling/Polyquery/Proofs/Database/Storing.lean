import Polyquery.Generated
import Polyquery.Proofs.Database.Keys
import Polyquery.Proofs.Session
import Polyquery.Proofs.Sql.Upsert

/-!
# Storing rows

What is stated of a database that stores rows: that it asks its server the same as for the
upsert that is generated for the rows, and that it gives the rows back with the keys that
were assigned to them.
-/

namespace Polyquery.Database

variable {σ : Type} {table : Table} {rows : List Row} {d : Dialect}

theorem columns_ne_nil (present : ∀ row ∈ rows, table.presentColumns row ≠ []) :
    ∀ run ∈ UpsertRun.partition table rows, run.columns ≠ [] :=
  fun _ mem => (UpsertRun.IsPartition.partition table rows).columns_ne_nil present mem

/-- The upsert of rows is generated, and executing it leads to the same state of the
connection as storing the rows, what was sent included.  They fail alike. -/
def UpsertsAlike (db : Database σ) (table : Table) (rows : List Row) (handle : Option Handle)
    (state : σ) : Prop :=
  ∃ generated, db.generate ((Query.ofTable table).upsert rows) = .ok generated ∧
    Session.Alike (db.execute generated handle) (db.upsert table rows handle) state

theorem generate_upsert {db : Database σ} (dialect : db.backend.dialect? = some d)
    (present : ∀ row ∈ rows, table.presentColumns row ≠ []) :
    db.generate ((Query.ofTable table).upsert rows) =
      .ok (.sql ((UpsertRun.partition table rows).map (UpsertRun.statements d table)).flatten) := by
  have made := @Query.statements_eq_flatMap d ((Query.ofTable table).upsert rows) rfl
    (columns_ne_nil present)
  rw [generate, Backend.generate, dialect]
  change (do return Generated.sql (← ((Query.ofTable table).upsert rows).statements d
    .placeholders) : Result Generated) = _
  rw [made]
  rfl

/-- If the statements of the runs of some rows are answered one after the other, the rows
come back with the keys in the answers.  Without an only primary key they come back as they
are. -/
structure Assigns {α : Type} (db : Database σ) (handle : Option Handle)
    (ask : Table → List UpsertRun → Session σ (List α))
    (Assigned : UpsertRun → α → List Json → Prop) (table : Table) (rows : List Row) : Prop where
  only : ∀ {key state after answers filled}, table.primaryKeys = [key] →
    (ask table (UpsertRun.partition table rows)).run state = (.ok answers, after) →
    UpsertRun.Filled key Assigned (UpsertRun.partition table rows) answers filled →
    (db.upsert table rows handle).run state = (.ok filled, after)
  others : ∀ {state after answers}, (∀ key, table.primaryKeys ≠ [key]) →
    (ask table (UpsertRun.partition table rows)).run state = (.ok answers, after) →
    (db.upsert table rows handle).run state = (.ok rows, after)

/-- It is enough that the keys are collected from the answers, run by run. -/
theorem assigns_of_run {α : Type} {db : Database σ} {handle : Option Handle}
    {ask : Table → List UpsertRun → Session σ (List α)}
    {Assigned : UpsertRun → α → List Json → Prop} {collect : UpsertRun → α → List Json}
    (collects : ∀ {key}, table.primaryKeys = [key] → UpsertRun.Collects key Assigned collect)
    (stores : ∀ {state after answers},
      (ask table (UpsertRun.partition table rows)).run state = (.ok answers, after) →
      (db.upsert table rows handle).run state = (.ok (table.assignKeys rows
        (List.zipWith collect (UpsertRun.partition table rows) answers).flatten), after)) :
    db.Assigns handle ask Assigned table rows where
  only := by
    intro key state after answers filled keys ran becomes
    rw [stores ran, becomes.assignKeys_eq (.partition table rows) keys (collects keys)]
  others := by
    intro state after answers others ran
    rw [stores ran, Table.assignKeys_eq_self others]

end Polyquery.Database
