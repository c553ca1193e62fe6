import Polyquery.Proofs.Sql.Numbering
import Polyquery.Sql.Upsert

/-!
# Writing runs of rows

A run of rows is written without an error.  Its fields become parameters row by row, in
the order of the columns, and are numbered one by one.  What PostgreSQL does on a
conflict uses these parameters again and adds none.
-/

namespace Polyquery

open Writing Piece

/-! ## Items with one value each -/

namespace Writing

variable {α β γ : Type}

/-- Items with one value each are numbered one by one. -/
theorem threaded_singleton (make : Nat → β) (value : α → Value) (n : Nat) (items : List α) :
    threaded (fun n _ => make n) (fun item => [value item]) n items =
      (List.range' n items.length).map make := by
  induction items generalizing n with
  | nil => rfl
  | cons item rest ih =>
      rw [threaded, ih, List.length_singleton, List.length_cons, List.range'_succ, List.map_cons]

theorem map_threaded (f : β → γ) (result : Nat → α → β) (values : α → List Value) (n : Nat)
    (items : List α) :
    (threaded result values n items).map f =
      threaded (fun n item => f (result n item)) values n items := by
  induction items generalizing n with
  | nil => rfl
  | cons item rest ih => rw [threaded, List.map_cons, ih, threaded]

end Writing

namespace UpsertRun

variable (d : Dialect) (table : Table) (run : UpsertRun)

/-! ## Rows -/

/-- The values of a row in the order of the columns; a missing one is null. -/
def rowValues (row : Row) : List Value :=
  run.columns.map fun column => ((Fields.find? column row).map Value.ofJson).getD .null

/-- The parameters of a row after the `n`-th. -/
def rowPieces (n : Nat) : List (List Piece) :=
  (List.range' n run.columns.length).map fun k => [.bound (k + 1)]

theorem gives_writeRow (row : Row) (n : Nat) :
    (run.writeRow row).Gives n (run.rowPieces n) (run.rowValues row) := by
  let value (column : String) : Value :=
    ((Fields.find? column row).map Value.ofJson).getD .null
  have given : (run.writeRow row).Gives n
      (threaded (fun n _ => [Piece.bound (n + 1)]) (fun column => [value column]) n run.columns)
      (run.columns.flatMap fun column => [value column]) :=
    gives_mapM fun column _ n => (gives_bind (value column)).map
  rw [threaded_singleton fun n => [Piece.bound (n + 1)], ← List.map_eq_flatMap] at given
  exact given

/-- The values of the rows, row by row. -/
def values : List Value :=
  run.rows.flatMap run.rowValues

/-- The parameters of the rows. -/
def writtenRows : List (List (List Piece)) :=
  threaded (fun n _ => run.rowPieces n) run.rowValues 0 run.rows

/-- The pieces up to the values. -/
def valuesPieces (separator : String) : List Piece :=
  [.text (d.keyword .upsert ++ " INTO "), .name table.name, .text " "] ++
    tuple separator run.columnNames ++ [.text " VALUES "] ++
    separated separator (run.writtenRows.map (tuple separator))

theorem gives_writeValues (separator : String) :
    (run.writeValues d separator table).Gives 0
      (run.valuesPieces d table separator, run.writtenRows) run.values :=
  (gives_mapM fun row _ n => run.gives_writeRow row n).map

/-! ## Statements -/

/-- The pieces of the statement that stores the rows. -/
def pieces : List Piece :=
  match d with
  | .mysql | .sqlite => run.valuesPieces d table ", " ++ [.text ";"]
  | .postgres => run.valuesPieces d table "," ++ run.conflictClause table run.writtenRows ++
      returningClause table ++ [.text ";"]

/-- A run of rows is written without an error. -/
theorem gives_write : (run.write d table).Gives 0 (run.pieces d table) run.values := by
  cases d
  · exact (run.gives_writeValues .mysql table ", ").map
  · exact (run.gives_writeValues .sqlite table ", ").map
  · exact (run.gives_writeValues .postgres table ",").map

/-- The statements of a run that has columns. -/
theorem drafts_eq (some : run.columns ≠ []) :
    run.drafts d table = .ok (⟨run.pieces d table, run.values⟩ :: run.followUp d table) := by
  have present : run.columns.isEmpty = false := List.isEmpty_eq_false_iff.mpr some
  rw [drafts, present, if_neg Bool.false_ne_true, (run.gives_write d table).run_eq]

/-- A run without columns has no statements. -/
theorem drafts_eq_error (none : run.columns = []) :
    run.drafts d table = .error (.generation (.emptyRow table.name)) := by
  rw [drafts, none]
  rfl

/-! ## Numbers of parameters -/

variable {d table run}

@[simp]
theorem bounds_tuple (separator : String) (items : List (List Piece)) :
    bounds (tuple separator items) = items.flatMap bounds := by
  simp [tuple]

theorem flatMap_bounds_columnNames : run.columnNames.flatMap bounds = [] := by
  rw [List.flatMap_eq_nil_iff]
  intro item mem
  obtain ⟨column, -, rfl⟩ := List.mem_map.mp mem
  rfl

theorem flatMap_bounds_rowPieces (n : Nat) :
    (run.rowPieces n).flatMap bounds = List.range' (n + 1) run.columns.length := by
  have shifted : List.range' (n + 1) run.columns.length =
      (List.range' n run.columns.length).map (· + 1) := by
    rw [← List.range'_succ_left]
  rw [rowPieces, List.flatMap_map, shifted, List.map_eq_flatMap]
  rfl

/-- The fields are numbered one by one. -/
theorem flatMap_bounds_writtenRows :
    run.writtenRows.flatMap (List.flatMap bounds) = List.range' 1 run.values.length := by
  have numbered (n : Nat) (row : Row) : bounds (tuple "" (run.rowPieces n)) =
      List.range' (n + 1) (run.rowValues row).length := by
    rw [bounds_tuple, flatMap_bounds_rowPieces, rowValues, List.length_map]
  rw [values, ← bounds_threaded numbered, ← map_threaded, List.flatMap_map]
  simp only [bounds_tuple]
  rfl

theorem bounds_valuesPieces (separator : String) :
    bounds (run.valuesPieces d table separator) = List.range' 1 run.values.length := by
  rw [valuesPieces, bounds_append, bounds_append, bounds_append, bounds_tuple,
    flatMap_bounds_columnNames, bounds_separated, List.flatMap_map,
    ← flatMap_bounds_writtenRows]
  simp only [bounds_tuple]
  rfl

theorem bounds_assignment (names values : List (List Piece)) :
    bounds (assignment names values) = names.flatMap bounds ++ values.flatMap bounds := by
  unfold assignment
  split <;> simp

theorem bounds_keyCondition (row : Row) : bounds (keyCondition table row) = [] := by
  have names : (table.primaryKeys.map fun key =>
      [.name table.name, .text ".", .name key]).flatMap bounds = [] := by
    simp [List.flatMap_map]
  have literals : (table.primaryKeys.map fun key =>
      [.value (((Fields.find? key row).map Value.ofJson).getD .null)]).flatMap bounds = [] := by
    rw [List.flatMap_map, List.flatMap_eq_nil_iff]
    exact fun key _ => rfl
  rw [keyCondition, bounds_append, bounds_append, bounds_append, bounds_tuple, bounds_tuple, names,
    literals]
  rfl

/-- What is stored on a conflict are the fields of the only row, or names. -/
theorem flatMap_bounds_conflictValues_subset (run : UpsertRun) (rows : List (List (List Piece))) :
    (run.conflictValues rows).flatMap bounds ⊆ rows.flatMap (List.flatMap bounds) := by
  unfold conflictValues
  split
  · rw [List.flatMap_singleton]
    exact List.Subset.refl _
  · rw [List.flatMap_map]
    intro n mem
    obtain ⟨column, -, impossible⟩ := List.mem_flatMap.mp mem
    cases impossible

theorem bounds_conflictClause_subset (table : Table) (run : UpsertRun)
    (rows : List (List (List Piece))) :
    bounds (run.conflictClause table rows) ⊆ rows.flatMap (List.flatMap bounds) := by
  have keys : (table.primaryKeys.map fun key => [.name key]).flatMap bounds = [] := by
    simp [List.flatMap_map]
  unfold conflictClause
  split
  · have stored := flatMap_bounds_conflictValues_subset run rows
    rw [bounds_append, bounds_append, bounds_append, bounds_append, bounds_tuple, keys,
      bounds_assignment, flatMap_bounds_columnNames]
    split
    · simpa [bounds_keyCondition] using stored
    · simpa using stored
  · exact List.nil_subset _

theorem bounds_returningClause : bounds (returningClause table) = [] := by
  unfold returningClause
  split <;> rfl

variable (table run)

/-- Where parameters have no number in the text, each stands there once. -/
theorem bounds_pieces_replace (different : d ≠ .postgres) :
    bounds (run.pieces d table) = List.range' 1 run.values.length := by
  cases d with
  | mysql => simp [pieces, bounds_valuesPieces]
  | sqlite => simp [pieces, bounds_valuesPieces]
  | postgres => exact absurd rfl different

/-- PostgreSQL uses the fields again where a key is there already, and nothing else. -/
theorem bounds_pieces_insert :
    bounds (run.pieces .postgres table) ⊆ List.range' 1 run.values.length := by
  have again := bounds_conflictClause_subset table run run.writtenRows
  rw [flatMap_bounds_writtenRows] at again
  simp only [pieces, bounds_append, bounds_valuesPieces, bounds_returningClause, bounds_text,
    bounds_nil, List.append_nil]
  exact List.append_subset.mpr ⟨List.Subset.refl _, again⟩

end UpsertRun

end Polyquery
