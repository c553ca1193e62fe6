import Mathlib.Data.List.Chain
import Polyquery.Sql.Upsert

/-!
# Runs of rows

Cutting rows into runs loses no row and keeps their order, and a run ends only where the
next row has other columns.  No other runs are cut like this, and none that keep to one
list of columns each are fewer.  The columns of a table contain its keys, so that the
columns of a run tell whether its rows carry the key.
-/

namespace Polyquery

theorem Table.mem_presentColumns {table : Table} {row : Row} {column : String} :
    column ∈ table.presentColumns row ↔ column ∈ table.columns ∧ Fields.has column row = true :=
  List.mem_filter

theorem Table.singleKey?_eq_some {table : Table} {key : String} :
    table.singleKey? = some key ↔ table.primaryKeys = [key] := by
  unfold singleKey?
  split
  · rename_i only keys
    rw [keys, Option.some.injEq, List.cons.injEq, eq_self, and_true]
  · rename_i several
    exact iff_of_false nofun fun keys => several key keys

namespace UpsertRun

/-- Runs that the rows of a table are cut into, each as long as possible. -/
structure IsPartition (table : Table) (rows : List Row) (runs : List UpsertRun) : Prop where
  rows_eq : runs.flatMap UpsertRun.rows = rows
  nonempty : ∀ run ∈ runs, run.rows ≠ []
  columns_eq : ∀ run ∈ runs, ∀ row ∈ run.rows, table.presentColumns row = run.columns
  apart : runs.IsChain fun first second => first.columns ≠ second.columns

namespace IsPartition

variable {table : Table} {rows : List Row} {runs : List UpsertRun}

/-- A row in front of the rows is in front of the runs. -/
theorem extend (row : Row) (partition : IsPartition table rows runs) :
    IsPartition table (row :: rows) (extend (table.presentColumns row) row runs) := by
  cases runs with
  | nil =>
      have none : rows = [] := partition.rows_eq.symm
      rw [none, UpsertRun.extend]
      refine ⟨rfl, ?_, ?_, List.IsChain.singleton _⟩
      · rw [List.forall_mem_singleton]
        exact List.cons_ne_nil _ _
      · rw [List.forall_mem_singleton, List.forall_mem_singleton]
  | cons first others =>
      have firstColumns := partition.columns_eq first List.mem_cons_self
      have rowsEq : first.rows ++ others.flatMap UpsertRun.rows = rows := partition.rows_eq
      rw [UpsertRun.extend]
      split
      · rename_i same
        refine ⟨?_, ?_, ?_, ?_⟩
        · exact congrArg (row :: ·) rowsEq
        · rw [List.forall_mem_cons]
          exact ⟨List.cons_ne_nil _ _, (List.forall_mem_cons.mp partition.nonempty).2⟩
        · rw [List.forall_mem_cons, List.forall_mem_cons]
          refine ⟨⟨rfl, fun other mem => ?_⟩, (List.forall_mem_cons.mp partition.columns_eq).2⟩
          rw [firstColumns other mem, same]
        · have chain := partition.apart
          cases others with
          | nil => exact List.IsChain.singleton _
          | cons second rest =>
              rw [List.isChain_cons_cons] at chain ⊢
              rw [← same]
              exact chain
      · rename_i different
        refine ⟨?_, ?_, ?_, ?_⟩
        · exact congrArg (row :: ·) rowsEq
        · rw [List.forall_mem_cons]
          exact ⟨List.cons_ne_nil _ _, partition.nonempty⟩
        · rw [List.forall_mem_cons, List.forall_mem_singleton]
          exact ⟨rfl, partition.columns_eq⟩
        · rw [List.isChain_cons_cons]
          exact ⟨Ne.symm different, partition.apart⟩

theorem partition (table : Table) (rows : List Row) :
    IsPartition table rows (UpsertRun.partition table rows) := by
  induction rows with
  | nil => exact ⟨rfl, nofun, nofun, List.IsChain.nil⟩
  | cons row rest ih => exact ih.extend row

variable {run : UpsertRun} {row : Row}

theorem mem_rows (partition : IsPartition table rows runs) (mem : run ∈ runs)
    (inRun : row ∈ run.rows) : row ∈ rows := by
  rw [← partition.rows_eq]
  exact List.mem_flatMap_of_mem mem inRun

/-- Rows with a column of the table are cut into runs with columns. -/
theorem columns_ne_nil (partition : IsPartition table rows runs)
    (present : ∀ row ∈ rows, table.presentColumns row ≠ []) (mem : run ∈ runs) :
    run.columns ≠ [] := by
  obtain ⟨row, inRun⟩ := List.exists_mem_of_ne_nil _ (partition.nonempty run mem)
  rw [← partition.columns_eq run mem row inRun]
  exact present row (partition.mem_rows mem inRun)

/-- A row without a column of the table is in a run without columns. -/
theorem exists_columns_eq_nil (partition : IsPartition table rows runs) (mem : row ∈ rows)
    (none : table.presentColumns row = []) : ∃ run ∈ runs, run.columns = [] := by
  rw [← partition.rows_eq] at mem
  obtain ⟨run, inRuns, inRun⟩ := List.mem_flatMap.mp mem
  exact ⟨run, inRuns, by rw [← partition.columns_eq run inRuns row inRun, none]⟩

/-- The columns of a run tell whether its rows carry a key. -/
theorem has_iff_mem_columns (partition : IsPartition table rows runs) {key : String}
    (isKey : key ∈ table.primaryKeys) (mem : run ∈ runs) (inRun : row ∈ run.rows) :
    Fields.has key row = true ↔ key ∈ run.columns := by
  rw [← partition.columns_eq run mem row inRun, Table.mem_presentColumns]
  exact (and_iff_right (table.keys_subset isKey)).symm

/-- The columns of a run tell whether its rows carry the only key. -/
theorem has_iff (partition : IsPartition table rows runs) {key : String}
    (keys : table.primaryKeys = [key]) (mem : run ∈ runs) (inRun : row ∈ run.rows) :
    Fields.has key row = true ↔ key ∈ run.columns :=
  partition.has_iff_mem_columns (by rw [keys]; exact List.mem_cons_self) mem inRun

/-- A run has the first key of the table exactly if each of its rows carries it. -/
theorem hasKey_iff (partition : IsPartition table rows runs) {key : String}
    (first : key ∈ table.primaryKeys.head?) (mem : run ∈ runs) :
    run.hasKey table = true ↔ ∀ row ∈ run.rows, Fields.has key row = true := by
  have carries {row : Row} (inRun : row ∈ run.rows) :
      Fields.has key row = true ↔ key ∈ run.columns :=
    partition.has_iff_mem_columns (List.mem_of_mem_head? first) mem inRun
  have hasKey : run.hasKey table = true ↔ key ∈ run.columns := by
    obtain ⟨others, keys⟩ := List.head?_eq_some_iff.mp first
    rw [UpsertRun.hasKey, keys]
    exact List.contains_iff_mem
  rw [hasKey]
  constructor
  · intro inColumns row inRun
    exact (carries inRun).mpr inColumns
  · intro all
    obtain ⟨row, inRun⟩ := List.exists_mem_of_ne_nil _ (partition.nonempty run mem)
    exact (carries inRun).mp (all row inRun)

end IsPartition

/-! ## The only partition -/

section

variable {table : Table} {rows : List Row} {runs : List UpsertRun} {columns : List String}

/-- Put rows in front of runs, the last one first. -/
def prepend (table : Table) (rows : List Row) (runs : List UpsertRun) : List UpsertRun :=
  rows.foldr (fun row runs => extend (table.presentColumns row) row runs) runs

theorem partition_append (table : Table) (rows more : List Row) :
    partition table (rows ++ more) = prepend table rows (partition table more) :=
  List.foldr_append

/-- Neighbouring rows with the same columns, in front of runs of which the first has other
columns, become a run of their own. -/
theorem prepend_eq_cons {row : Row} {rest : List Row}
    (same : ∀ other ∈ row :: rest, table.presentColumns other = columns)
    (apart : ∀ next ∈ runs.head?, columns ≠ next.columns) :
    prepend table (row :: rest) runs = ⟨columns, row :: rest⟩ :: runs := by
  induction rest generalizing row with
  | nil =>
      rw [prepend, List.foldr_cons, List.foldr_nil, same row List.mem_cons_self]
      cases runs with
      | nil => rfl
      | cons next later =>
          have different : columns ≠ next.columns := apart next rfl
          rw [extend, if_neg different.symm]
  | cons second rest ih =>
      obtain ⟨ofRow, ofRest⟩ := List.forall_mem_cons.mp same
      have others := ih ofRest
      rw [prepend] at others ⊢
      rw [List.foldr_cons, others, ofRow, extend, if_pos rfl]

/-- Runs that are as long as possible are the ones that the rows are cut into. -/
theorem eq_partition (isPartition : IsPartition table rows runs) :
    runs = partition table rows := by
  induction runs generalizing rows with
  | nil =>
      have none : [] = rows := isPartition.rows_eq
      rw [← none]
      rfl
  | cons run later ih =>
      obtain ⟨columns, rowsOfRun⟩ := run
      obtain ⟨rowsEq, nonempty, columnsEq, apart⟩ := isPartition
      obtain ⟨runNonempty, laterNonempty⟩ := List.forall_mem_cons.mp nonempty
      obtain ⟨runColumns, laterColumns⟩ := List.forall_mem_cons.mp columnsEq
      rw [List.isChain_cons] at apart
      have rest : IsPartition table (later.flatMap UpsertRun.rows) later :=
        ⟨rfl, laterNonempty, laterColumns, apart.2⟩
      obtain ⟨row, others, rfl⟩ := List.exists_cons_of_ne_nil runNonempty
      rw [← rowsEq, List.flatMap_cons, partition_append, ← ih rest]
      exact (prepend_eq_cons runColumns apart.1).symm

theorem length_extend_le (columns : List String) (row : Row) (runs : List UpsertRun) :
    (extend columns row runs).length ≤ runs.length + 1 := by
  cases runs with
  | nil => exact le_rfl
  | cons run later =>
      rw [extend]
      split
      · exact Nat.le_succ _
      · exact le_rfl

/-- A further row with the same columns needs no further run. -/
theorem length_extend_extend (columns : List String) (row second : Row) (runs : List UpsertRun) :
    (extend columns row (extend columns second runs)).length =
      (extend columns second runs).length := by
  have opened : ∃ rows later, extend columns second runs = ⟨columns, rows⟩ :: later := by
    cases runs with
    | nil => exact ⟨_, _, rfl⟩
    | cons run later =>
        rw [extend]
        split
        · exact ⟨_, _, rfl⟩
        · exact ⟨_, _, rfl⟩
  obtain ⟨rows, later, same⟩ := opened
  rw [same, extend, if_pos rfl]
  rfl

/-- Rows with the same columns need at most one more run. -/
theorem length_prepend_le (same : ∀ row ∈ rows, table.presentColumns row = columns) :
    (prepend table rows runs).length ≤ runs.length + 1 := by
  induction rows with
  | nil => exact Nat.le_succ _
  | cons row rest ih =>
      obtain ⟨ofRow, ofRest⟩ := List.forall_mem_cons.mp same
      rw [prepend, List.foldr_cons, ofRow]
      -- only the last of the rows can open a run
      cases rest with
      | nil => exact length_extend_le _ _ _
      | cons second others =>
          have bound := ih ofRest
          rw [prepend, List.foldr_cons, ofRest second List.mem_cons_self] at bound
          rw [List.foldr_cons, ofRest second List.mem_cons_self, length_extend_extend]
          exact bound

/-- However rows are cut into runs with the same columns, there are not fewer of them. -/
theorem length_partition_le
    (uniform : ∀ run ∈ runs, ∀ row ∈ run.rows, table.presentColumns row = run.columns) :
    (partition table (runs.flatMap UpsertRun.rows)).length ≤ runs.length := by
  induction runs with
  | nil => exact le_rfl
  | cons run later ih =>
      obtain ⟨ofRun, ofLater⟩ := List.forall_mem_cons.mp uniform
      rw [List.flatMap_cons, partition_append]
      exact (length_prepend_le ofRun).trans (Nat.succ_le_succ (ih ofLater))

/-- The rows are cut into runs that are as long as possible, there is no other way to do so,
and no way to cut them into runs with the same columns has fewer runs. -/
theorem partition_unique (table : Table) (rows : List Row) :
    IsPartition table rows (partition table rows) ∧
    (∀ runs, IsPartition table rows runs → runs = partition table rows) ∧
    ∀ runs : List UpsertRun, runs.flatMap UpsertRun.rows = rows →
      (∀ run ∈ runs, ∀ row ∈ run.rows, table.presentColumns row = run.columns) →
      (partition table rows).length ≤ runs.length := by
  refine ⟨IsPartition.partition table rows, ?_, ?_⟩
  · intro runs isPartition
    exact eq_partition isPartition
  · intro runs rowsEq uniform
    rw [← rowsEq]
    exact length_partition_le uniform

/-- Films of which the second and third have no title, a null in the first and a field that
no column has in the third. -/
def mixedFilms : List Row :=
  [[("id", .int 1), ("title", .null)], [("id", .int 2)], [("id", .int 3), ("note", .str "lost")],
    [("id", .int 4), ("title", .str "Frenzy")]]

def filmTitles : Table :=
  Table.ofColumns "films" ["id"] ["title"]

theorem partition_unique_mixedFilms :
    partition filmTitles mixedFilms =
      [⟨["id", "title"], mixedFilms.take 1⟩, ⟨["id"], (mixedFilms.drop 1).take 2⟩,
        ⟨["id", "title"], mixedFilms.drop 3⟩] ∧
    (partition filmTitles mixedFilms).length ≤
      (mixedFilms.map fun row => (⟨filmTitles.presentColumns row, [row]⟩ : UpsertRun)).length := by
  obtain ⟨-, only, fewest⟩ := partition_unique filmTitles mixedFilms
  refine ⟨(only _ ⟨rfl, ?_, ?_, ?_⟩).symm, fewest _ rfl ?_⟩
  · decide
  · decide
  · decide
  · decide

end

/-! ## Runs without a key -/

/-- The rows of a run lack the only key of the table. -/
def LacksKey (table : Table) (run : UpsertRun) : Prop :=
  ∃ key, table.primaryKeys = [key] ∧ key ∉ run.columns

variable {table : Table} {run : UpsertRun}

theorem lacksKey_iff : run.LacksKey table ↔ (table.singleKey?.isSome && !run.hasKey table) := by
  unfold LacksKey
  constructor
  · rintro ⟨key, keys, lacks⟩
    simp [Table.singleKey?, hasKey, keys, lacks]
  · intro assigned
    rw [Bool.and_eq_true, Option.isSome_iff_exists] at assigned
    obtain ⟨⟨key, single⟩, lacks⟩ := assigned
    have keys := Table.singleKey?_eq_some.mp single
    exact ⟨key, keys, by simpa [hasKey, keys] using lacks⟩

theorem lacksKey_iff_not_mem {key : String} (keys : table.primaryKeys = [key]) :
    run.LacksKey table ↔ key ∉ run.columns := by
  constructor
  · rintro ⟨other, others, lacks⟩
    rw [keys] at others
    cases others
    exact lacks
  · intro lacks
    exact ⟨key, keys, lacks⟩

theorem assigned_iff_not_mem {key : String} (keys : table.primaryKeys = [key]) :
    (table.singleKey?.isSome && !run.hasKey table) = true ↔ key ∉ run.columns :=
  lacksKey_iff.symm.trans (lacksKey_iff_not_mem keys)

end UpsertRun

end Polyquery
