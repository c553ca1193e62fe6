import Polyquery.Proofs.Fields
import Polyquery.Proofs.Sql.Runs

/-!
# The columns of a table

A table is built from its keys and any list of columns, and whatever else is set of it later
leaves them alone.  Its columns are the strictly increasing list of the names that are given, so
that neither the order of the given columns nor repetitions can be seen, and its accessors are
those of its columns.  Because the keys are among the columns, a run of rows tells by its columns
whether its rows carry the key.
-/

namespace Polyquery

/-- Two lists become the same when they are sorted exactly if they have the same names. -/
theorem sortedNames_eq_iff {names others : List String} :
    sortedNames names = sortedNames others ↔ ∀ name, name ∈ names ↔ name ∈ others := by
  constructor
  · intro same name
    rw [← mem_sortedNames, same, mem_sortedNames]
  · intro same
    refine List.Pairwise.eq_of_mem_iff (pairwise_sortedNames names) (pairwise_sortedNames others)
      fun name => ?_
    rw [mem_sortedNames, mem_sortedNames, same]

namespace Table

/-! ## Settings -/

/-- What can be set of a table that is built. -/
inductive Setting
  | database (name : String)
  | delimiter (text : String)
  | mapping (value : Json)

/-- A table with a setting. -/
def set (table : Table) : Setting → Table
  | .database name => table.withDatabase name
  | .delimiter text => table.withDelimiter text
  | .mapping value => table.withMapping value

/-- A table with some settings, one after the other. -/
def setAll (table : Table) (settings : List Setting) : Table :=
  settings.foldl set table

/-! ## What a table is built from -/

/-- The keys of a table are the given ones, its columns are the given columns and keys in
increasing order, and its accessors are those of its columns. -/
structure IsBuiltFrom (name : String) (keys columns : List String) (table : Table) : Prop where
  keys_eq : table.primaryKeys = keys
  columns_eq : table.columns = sortedNames (columns ++ keys)
  accessors_eq : table.accessors =
    table.columns.map fun column => (column, Expr.member name column)

variable {name key column : String} {keys columns others : List String} {table : Table}

theorem isBuiltFrom_ofColumns (name : String) (keys columns : List String) :
    IsBuiltFrom name keys columns (ofColumns name keys columns) := by
  refine ⟨rfl, rfl, Fields.ofList_eq_self ?_⟩
  exact List.pairwise_map.mpr (pairwise_sortedNames (columns ++ keys))

namespace IsBuiltFrom

theorem set (built : IsBuiltFrom name keys columns table) (setting : Setting) :
    IsBuiltFrom name keys columns (table.set setting) := by
  obtain ⟨keysEq, columnsEq, accessorsEq⟩ := built
  cases setting with
  | database name => exact ⟨keysEq, columnsEq, accessorsEq⟩
  | delimiter text => exact ⟨keysEq, columnsEq, accessorsEq⟩
  | mapping value => exact ⟨keysEq, columnsEq, accessorsEq⟩

theorem setAll (built : IsBuiltFrom name keys columns table) (settings : List Setting) :
    IsBuiltFrom name keys columns (table.setAll settings) := by
  induction settings generalizing table with
  | nil => exact built
  | cons setting rest ih => exact ih (built.set setting)

theorem increasing (built : IsBuiltFrom name keys columns table) :
    table.columns.Pairwise (· < ·) := by
  rw [built.columns_eq]
  exact pairwise_sortedNames _

theorem mem_columns (built : IsBuiltFrom name keys columns table) :
    column ∈ table.columns ↔ column ∈ columns ∨ column ∈ keys := by
  rw [built.columns_eq, mem_sortedNames, List.mem_append]

theorem column?_eq (built : IsBuiltFrom name keys columns table) :
    table.column? column =
      if column ∈ table.columns then some (Expr.member name column) else none := by
  have sorted : Fields.Sorted table.accessors := by
    rw [built.accessors_eq]
    exact List.pairwise_map.mpr built.increasing
  rw [column?, ← Fields.ofList_eq_self sorted, built.accessors_eq, Fields.find?_ofList_map]

end IsBuiltFrom

/-! ## Given columns and columns -/

/-- Tables are equal if the keys and the given columns together have the same names. -/
theorem ofColumns_eq_of_mem_iff
    (same : ∀ column, column ∈ others ∨ column ∈ keys ↔ column ∈ columns ∨ column ∈ keys) :
    ofColumns name keys others = ofColumns name keys columns := by
  have sameColumns : sortedNames (others ++ keys) = sortedNames (columns ++ keys) := by
    rw [sortedNames_eq_iff]
    simpa only [List.mem_append] using same
  simp only [ofColumns, sameColumns]

/-- Tables that are built and set alike are equal exactly if they have the same columns. -/
theorem setAll_ofColumns_eq_iff (settings : List Setting) :
    (ofColumns name keys others).setAll settings = (ofColumns name keys columns).setAll settings ↔
      ∀ column, column ∈ others ∨ column ∈ keys ↔ column ∈ columns ∨ column ∈ keys := by
  constructor
  · intro same column
    have builtFromOthers := (isBuiltFrom_ofColumns name keys others).setAll settings
    have builtFromColumns := (isBuiltFrom_ofColumns name keys columns).setAll settings
    rw [← builtFromOthers.mem_columns, same, builtFromColumns.mem_columns]
  · intro same
    rw [ofColumns_eq_of_mem_iff same]

/-- However a table is built and whatever is set of it, its columns are strictly increasing and
are the given columns and the keys, it has the accessors of its columns and no others, it does not
depend on the order of the given columns or on repetitions, and a run of rows has the first key of
the table exactly if each of its rows carries it. -/
theorem columns_canonical (name : String) (keys columns : List String) (settings : List Setting) :
    let table := (ofColumns name keys columns).setAll settings
    table.columns.Pairwise (· < ·) ∧
    (∀ column, column ∈ table.columns ↔ column ∈ columns ∨ column ∈ keys) ∧
    (∀ column, table.column? column =
      if column ∈ table.columns then some (Expr.member name column) else none) ∧
    (∀ others, (ofColumns name keys others).setAll settings = table ↔
      ∀ column, column ∈ others ∨ column ∈ keys ↔ column ∈ columns ∨ column ∈ keys) ∧
    ∀ key ∈ keys.head?, ∀ rows, ∀ run ∈ UpsertRun.partition table rows,
      run.hasKey table = true ↔ ∀ row ∈ run.rows, Fields.has key row = true := by
  intro table
  have built : IsBuiltFrom name keys columns table :=
    (isBuiltFrom_ofColumns name keys columns).setAll settings
  refine ⟨built.increasing, fun column => built.mem_columns, fun column => built.column?_eq, ?_, ?_⟩
  · intro others
    exact setAll_ofColumns_eq_iff settings
  · intro key first rows run mem
    rw [← built.keys_eq] at first
    exact (UpsertRun.IsPartition.partition table rows).hasKey_iff first mem

def movieSettings : List Setting :=
  [.database "archive", .delimiter "::", .mapping (.obj []), .database "cinema"]

/-- Movies of which one column is given twice. -/
def movies : Table :=
  (ofColumns "data" ["movieid"] ["title", "releasedate", "title"]).setAll movieSettings

/-- Movies of which the second has a null for its key and the last has no key. -/
def movieRows : List Row :=
  [[("movieid", .int 1), ("title", .str "Rope")], [("movieid", .null), ("title", .str "Marnie")],
    [("title", .str "Frenzy")]]

theorem columns_canonical_movies :
    movies.columns = ["movieid", "releasedate", "title"] ∧
    movies.column? "title" = some (Expr.member "data" "title") ∧ movies.column? "rating" = none ∧
    (ofColumns "data" ["movieid"] ["releasedate", "title", "releasedate"]).setAll movieSettings =
      movies ∧
    "movieid" ∈ ["movieid"].head? ∧
    UpsertRun.partition movies movieRows =
      [⟨["movieid", "title"], movieRows.take 2⟩, ⟨["title"], movieRows.drop 2⟩] ∧
    UpsertRun.hasKey movies ⟨["movieid", "title"], movieRows.take 2⟩ = true ∧
    ¬ UpsertRun.hasKey movies ⟨["title"], movieRows.drop 2⟩ = true := by
  obtain ⟨-, mem, accessor, permuted, carried⟩ :=
    columns_canonical "data" ["movieid"] ["title", "releasedate", "title"] movieSettings
  have cut : UpsertRun.partition movies movieRows =
      [⟨["movieid", "title"], movieRows.take 2⟩, ⟨["title"], movieRows.drop 2⟩] := rfl
  have hasKey := carried "movieid" rfl movieRows
  rw [← movies, cut] at hasKey
  refine ⟨rfl, ?_, ?_, ?_, rfl, cut, ?_, ?_⟩
  · exact (accessor "title").trans (if_pos ((mem "title").mpr (by decide)))
  · refine (accessor "rating").trans (if_neg fun isColumn => ?_)
    exact absurd ((mem "rating").mp isColumn) (by decide)
  · exact (permuted _).mpr fun column => by simp; tauto
  · rw [hasKey _ (by simp)]
    decide
  · rw [hasKey _ (by simp)]
    decide

end Table

end Polyquery
