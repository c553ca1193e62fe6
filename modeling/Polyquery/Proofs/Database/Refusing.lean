import Polyquery.Proofs.Database.Storing

/-!
# Rows that are refused

A row without a column of the table cannot be written.  What is stated of an action that
fails for such a reason is that it has sent nothing.  Rows are stored run by run, each run
written and sent in its turn, so the runs in front of such a row have been sent by the time
it is found, unless the first row is one.
-/

namespace Polyquery

namespace Session

variable {σ α β τ : Type} {log : σ → List τ} {action : Session σ α}

/-- An action never fails because something cannot be written. -/
abbrev Written (action : Session σ α) : Prop :=
  action.FailsOnly fun failure => ∀ cause, failure ≠ .generation cause

/-- Whenever an action fails because something cannot be written, it has sent nothing. -/
def UnsentIfUnwritten (log : σ → List τ) (action : Session σ α) : Prop :=
  ∀ ⦃state after cause⦄, action.run state = (.error (.generation cause), after) →
    log after = log state

theorem Written.unsent (written : action.Written) : action.UnsentIfUnwritten log := by
  intro state after cause ran
  exact absurd rfl (written ran cause)

/-- What a database answers is no failure to write. -/
theorem ne_generation_of_mapError {answer : Except DatabaseFailure α} {failure : Error}
    (failed : answer.mapError Error.database = .error failure) (cause : GenerationError) :
    failure ≠ .generation cause := by
  cases answer with
  | ok value => cases failed
  | error =>
      cases failed
      nofun

/-- What comes first sends nothing. -/
theorem unsent_bind {next : α → Session σ β} (still : ∀ state, log (action.run state).2 = log state)
    (later : ∀ value, (next value).UnsentIfUnwritten log) :
    (action >>= next).UnsentIfUnwritten log := by
  intro state last cause ran
  have first := still state
  rw [run_bind] at ran
  rcases acted : action.run state with ⟨failure | value, middle⟩
  · rw [acted] at ran first
    cases ran
    exact first
  · rw [acted] at ran first
    exact (later value ran).trans first

theorem unsent_map (unsent : action.UnsentIfUnwritten log) (f : α → β) :
    (f <$> action).UnsentIfUnwritten log := by
  intro state after cause ran
  rw [run_map] at ran
  rcases acted : action.run state with ⟨failure | value, middle⟩
  · rw [acted] at ran
    cases ran
    exact unsent acted
  · rw [acted] at ran
    cases ran

/-- From some states an action succeeds and sends something, and leads to such a state. -/
def Sends (Ready : σ → Prop) (log : σ → List τ) (action : Session σ α) : Prop :=
  ∀ state, Ready state → ∃ value after, action.run state = (.ok value, after) ∧ Ready after ∧
    (log state).length < (log after).length

theorem Sends.map {Ready : σ → Prop} (sends : action.Sends Ready log) (f : α → β) :
    (f <$> action).Sends Ready log := by
  intro state ready
  obtain ⟨value, after, ran, rest⟩ := sends state ready
  exact ⟨f value, after, by rw [run_map, ran]; rfl, rest⟩

theorem sends_mapM {Ready : σ → Prop} {f : α → Session σ β} {items : List α} (some : items ≠ [])
    (each : ∀ item ∈ items, (f item).Sends Ready log) : (items.mapM f).Sends Ready log := by
  induction items with
  | nil => exact absurd rfl some
  | cons item rest ih =>
      obtain ⟨ofItem, ofRest⟩ := List.forall_mem_cons.mp each
      intro state ready
      obtain ⟨value, middle, ran, readyThen, grown⟩ := ofItem state ready
      by_cases last : rest = []
      · rw [last]
        exact ⟨_, middle, run_mapM_cons_eq_ok.mpr ⟨_, [], _, ran, rfl, rfl⟩, readyThen, grown⟩
      · obtain ⟨values, after, ranRest, readyEnd, grownRest⟩ := ih last ofRest middle readyThen
        exact ⟨_, after, run_mapM_cons_eq_ok.mpr ⟨_, _, _, ran, ranRest, rfl⟩, readyEnd,
          grown.trans grownRest⟩

end Session

/-! ## Runs of rows -/

namespace UpsertRun

open Session (UnsentIfUnwritten Written)

variable {σ α τ : Type} {log : σ → List τ} {table : Table} {rows : List Row}
  {storeRun : UpsertRun → Session σ α}

/-- A row without a column of the table comes after a first row that has one. -/
def EmptyLate (table : Table) (rows : List Row) : Prop :=
  ∃ first rest, rows = first :: rest ∧ table.presentColumns first ≠ [] ∧
    ∃ row ∈ rest, table.presentColumns row = []

/-- A run is refused at once if its rows have no column of the table, and can be written
otherwise. -/
structure Refuses (table : Table) (storeRun : UpsertRun → Session σ α) : Prop where
  empty : ∀ run, run.columns = [] → storeRun run = throw (.generation (.emptyRow table.name))
  written : ∀ run, run.columns ≠ [] → (storeRun run).Written

/-- From some states every run that can be written is stored. -/
def StoresFrom (Ready : σ → Prop) (log : σ → List τ) (storeRun : UpsertRun → Session σ α) :
    Prop :=
  ∀ run, run.columns ≠ [] → (storeRun run).Sends Ready log

theorem exists_partition_cons (table : Table) (first : Row) (rest : List Row) :
    ∃ run runs, partition table (first :: rest) = run :: runs ∧
      run.columns = table.presentColumns first := by
  have split : partition table (first :: rest) =
      extend (table.presentColumns first) first (partition table rest) := rfl
  rw [split]
  cases partition table rest with
  | nil => exact ⟨_, _, rfl, rfl⟩
  | cons run runs =>
      rw [extend]
      split
      · exact ⟨_, _, rfl, rfl⟩
      · exact ⟨_, _, rfl, rfl⟩

/-- Rows are stored run by run in vain only if a run other than the first is refused. -/
theorem unsent_storeRuns (refuses : Refuses table storeRun) (early : ¬ EmptyLate table rows) :
    ((partition table rows).mapM storeRun).UnsentIfUnwritten log := by
  by_cases empty : ∃ row ∈ rows, table.presentColumns row = []
  · obtain ⟨row, mem, none⟩ := empty
    cases rows with
    | nil => cases mem
    | cons first rest =>
        have firstNone : table.presentColumns first = [] := by
          by_contra some
          refine early ⟨first, rest, rfl, some, row, ?_, none⟩
          rcases List.mem_cons.mp mem with rfl | inRest
          · exact absurd none some
          · exact inRest
        obtain ⟨run, runs, split, columns⟩ := exists_partition_cons table first rest
        intro state after cause ran
        rw [split, List.mapM_cons, refuses.empty run (columns.trans firstNone),
          Session.run_bind, Session.run_throw] at ran
        cases ran
        rfl
  · have present : ∀ row ∈ rows, table.presentColumns row ≠ [] :=
      fun row mem none => empty ⟨row, mem, none⟩
    have written : ((partition table rows).mapM storeRun).Written :=
      Session.failsOnly_mapM fun run mem =>
        refuses.written run (Database.columns_ne_nil present run mem)
    exact written.unsent

/-- Everything in front of a run that is refused is stored. -/
theorem run_storeRuns_of_empty {Ready : σ → Prop} (refuses : Refuses table storeRun)
    (stores : StoresFrom Ready log storeRun) {runs : List UpsertRun}
    (empty : ∃ run ∈ runs, run.columns = []) {state : σ} (ready : Ready state) :
    ∃ after, (runs.mapM storeRun).run state =
        (.error (.generation (.emptyRow table.name)), after) ∧
      (log state).length ≤ (log after).length := by
  induction runs generalizing state with
  | nil =>
      obtain ⟨run, mem, -⟩ := empty
      cases mem
  | cons run rest ih =>
      rw [List.mapM_cons, Session.run_bind]
      by_cases columns : run.columns = []
      · rw [refuses.empty run columns]
        exact ⟨state, rfl, Nat.le_refl _⟩
      · obtain ⟨value, middle, stored, readyThen, grown⟩ := stores run columns state ready
        have emptyRest : ∃ run ∈ rest, run.columns = [] := by
          obtain ⟨other, mem, none⟩ := empty
          rcases List.mem_cons.mp mem with rfl | inRest
          · exact absurd none columns
          · exact ⟨other, inRest, none⟩
        obtain ⟨after, ran, grownThen⟩ := ih emptyRest readyThen
        rw [stored]
        simp only [Session.run_bind, ran]
        exact ⟨after, rfl, grown.le.trans grownThen⟩

/-- If a later row has no column, the first run has been stored when this is found. -/
theorem sent_storeRuns {Ready : σ → Prop} (refuses : Refuses table storeRun)
    (stores : StoresFrom Ready log storeRun) (late : EmptyLate table rows) (state : σ)
    (ready : Ready state) :
    ∃ cause after, ((partition table rows).mapM storeRun).run state =
        (.error (.generation cause), after) ∧ log after ≠ log state := by
  obtain ⟨first, rest, rfl, some, row, mem, none⟩ := late
  obtain ⟨run, runs, split, columns⟩ := exists_partition_cons table first rest
  have isPartition := IsPartition.partition table (first :: rest)
  obtain ⟨other, inRuns, otherNone⟩ :=
    isPartition.exists_columns_eq_nil (List.mem_cons_of_mem first mem) none
  have runSome : run.columns ≠ [] := by
    rw [columns]
    exact some
  have inRest : ∃ run ∈ runs, run.columns = [] := by
    rw [split] at inRuns
    rcases List.mem_cons.mp inRuns with rfl | later
    · exact absurd otherNone runSome
    · exact ⟨other, later, otherNone⟩
  obtain ⟨value, middle, stored, readyThen, grown⟩ := stores run runSome state ready
  obtain ⟨after, ran, grownThen⟩ := run_storeRuns_of_empty refuses stores inRest readyThen
  refine ⟨.emptyRow table.name, after, ?_, ?_⟩
  · rw [split, List.mapM_cons, Session.run_bind, stored]
    simp only [Session.run_bind, ran]
  · intro same
    rw [same] at grownThen
    exact absurd (grown.trans_le grownThen) (Nat.lt_irrefl _)

end UpsertRun

/-! ## Databases -/

namespace Database

open Session (UnsentIfUnwritten Written)

theorem written_rejectHandle {σ : Type} (title : String) (handle : Option Handle) :
    (rejectHandle title handle : Session σ Unit).Written := by
  cases handle with
  | none => exact Session.failsOnly_pure _
  | some => exact Session.failsOnly_throw fun cause => nofun

theorem run_rejectHandle {σ : Type} (title : String) (handle : Option Handle)
    (state : σ) : ((rejectHandle title handle).run state).2 = state := by
  cases handle <;> rfl

/-- Generating a query and executing it sends nothing if the query cannot be generated. -/
theorem unsent_run {σ τ : Type} {log : σ → List τ} {db : Database σ}
    (written : ∀ generated handle, (db.execute generated handle).Written) (query : Query)
    (handle : Option Handle) : (db.run query handle).UnsentIfUnwritten log :=
  Session.unsent_bind (fun _ => rfl) fun generated => (written generated handle).unsent

end Database

end Polyquery
