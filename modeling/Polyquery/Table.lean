import Polyquery.Error
import Polyquery.Expression.Basic

/-!
# Tables

A table names its columns and its primary keys, and the database or index that
holds it.  The columns are kept strictly increasing and always contain the keys,
whatever order and repetitions the table is built from.
-/

namespace Polyquery

/-- Put a name at its place among names in order. -/
def insertName (name : String) : List String → List String
  | [] => [name]
  | other :: rest =>
    if name ≤ other then name :: other :: rest
    else other :: insertName name rest

/-- The names of a list in order, each as often as it is there. -/
def orderedNames (names : List String) : List String :=
  names.foldr insertName []

/-- The distinct names of a list in increasing order.  Once the names are in order,
only neighbours can be the same. -/
def sortedNames (names : List String) : List String :=
  (orderedNames names).eraseReps

theorem perm_insertName (name : String) (names : List String) :
    (insertName name names).Perm (name :: names) := by
  induction names with
  | nil => exact .refl _
  | cons other rest ih =>
      rw [insertName]
      split
      · exact .refl _
      · exact (ih.cons other).trans (.swap name other rest)

/-- Names in order stay in order when a name is put at its place. -/
theorem pairwise_insertName (name : String) {names : List String}
    (ordered : names.Pairwise (· ≤ ·)) : (insertName name names).Pairwise (· ≤ ·) := by
  induction names with
  | nil => exact List.pairwise_singleton _ _
  | cons other rest ih =>
      obtain ⟨first, tail⟩ := List.pairwise_cons.mp ordered
      rw [insertName]
      split
      · rename_i before
        refine List.pairwise_cons.mpr ⟨fun later mem => ?_, ordered⟩
        rcases List.mem_cons.mp mem with same | inRest
        · rw [same]
          exact before
        · exact String.le_trans before (first later inRest)
      · rename_i notBefore
        refine List.pairwise_cons.mpr ⟨fun later mem => ?_, ih tail⟩
        rcases List.mem_cons.mp ((perm_insertName name rest).mem_iff.mp mem) with same | inRest
        · rw [same]
          exact (String.le_total other name).resolve_right notBefore
        · exact first later inRest

theorem perm_orderedNames (names : List String) : (orderedNames names).Perm names := by
  induction names with
  | nil => exact .refl _
  | cons name rest ih => exact (perm_insertName name _).trans (ih.cons name)

theorem pairwise_orderedNames (names : List String) : (orderedNames names).Pairwise (· ≤ ·) := by
  induction names with
  | nil => exact .nil
  | cons name rest ih => exact pairwise_insertName name ih

/-- Of two neighbours that are the same, the first is dropped. -/
theorem eraseReps_cons_cons (name next : String) (rest : List String) :
    (name :: next :: rest).eraseReps =
      if name = next then (next :: rest).eraseReps else name :: (next :: rest).eraseReps := by
  -- the names that are kept are collected in reverse in front of what is still read
  have collects (last : String) (rest seen : List String) :
      List.eraseRepsBy.loop (· == ·) last rest seen =
        seen.reverse ++ List.eraseRepsBy.loop (· == ·) last rest [] := by
    induction rest generalizing last seen with
    | nil => simp [List.eraseRepsBy.loop]
    | cons next rest ih =>
        rw [List.eraseRepsBy.loop, List.eraseRepsBy.loop]
        split
        · exact ih last seen
        · rw [ih next (last :: seen), ih next [last]]
          simp
  simp only [List.eraseReps, List.eraseRepsBy, List.eraseRepsBy.loop]
  split
  · rename_i same
    rw [if_pos (beq_iff_eq.mp same), beq_iff_eq.mp same]
  · rename_i different
    have apart : name ≠ next := fun same => by simp [same] at different
    rw [if_neg apart, collects next rest [name]]
    rfl

theorem mem_eraseReps {x : String} {names : List String} : x ∈ names.eraseReps ↔ x ∈ names := by
  induction names with
  | nil => exact .rfl
  | cons name rest ih =>
      cases rest with
      | nil => exact .rfl
      | cons next rest =>
          rw [eraseReps_cons_cons]
          split
          · rename_i same
            rw [ih, same]
            refine ⟨List.mem_cons_of_mem next, fun mem => ?_⟩
            rcases List.mem_cons.mp mem with rfl | inRest
            · exact List.mem_cons_self
            · exact inRest
          · rw [List.mem_cons, ih, ← List.mem_cons]

/-- Names in order from which repeated neighbours are dropped are strictly increasing. -/
theorem pairwise_eraseReps {names : List String} (ordered : names.Pairwise (· ≤ ·)) :
    names.eraseReps.Pairwise (· < ·) := by
  induction names with
  | nil => exact .nil
  | cons name rest ih =>
      cases rest with
      | nil => exact List.pairwise_singleton _ _
      | cons next rest =>
          obtain ⟨first, tail⟩ := List.pairwise_cons.mp ordered
          rw [eraseReps_cons_cons]
          split
          · exact ih tail
          · rename_i different
            refine List.pairwise_cons.mpr ⟨fun later mem => ?_, ih tail⟩
            have below : name < next :=
              Std.lt_of_le_of_ne (first next List.mem_cons_self) different
            rcases List.mem_cons.mp (mem_eraseReps.mp mem) with same | inRest
            · rw [same]
              exact below
            · exact Std.lt_of_lt_of_le below ((List.pairwise_cons.mp tail).1 later inRest)

theorem mem_sortedNames {x : String} {names : List String} :
    x ∈ sortedNames names ↔ x ∈ names :=
  mem_eraseReps.trans (perm_orderedNames names).mem_iff

theorem pairwise_sortedNames (names : List String) : (sortedNames names).Pairwise (· < ·) :=
  pairwise_eraseReps (pairwise_orderedNames names)

/-- A table, or a type of documents in an index. -/
structure Table where
  name : String
  /-- The database or index that holds the table. -/
  database : String
  /-- The primary keys in the order in which they form a key. -/
  primaryKeys : List String
  /-- All columns. -/
  columns : List String
  /-- What separates the parts of a composite document id. -/
  delimiter : String
  /-- The mapping with which the index is created. -/
  mapping : Option Json
  /-- The expressions of the columns. -/
  accessors : Fields Expr
  increasing : columns.Pairwise (· < ·)
  keys_subset : primaryKeys ⊆ columns
  accessible : ∀ column, Fields.find? column accessors =
    if column ∈ columns then some (Expr.member name column) else none

namespace Table

/-- The delimiter of composite ids unless another is given. -/
def defaultDelimiter : String := "-"

/-- A table with the given keys and columns, held by a database of its own
name. -/
def ofColumns (name : String) (primaryKeys columns : List String) : Table where
  name := name
  database := name
  primaryKeys := primaryKeys
  columns := sortedNames (columns ++ primaryKeys)
  delimiter := defaultDelimiter
  mapping := none
  accessors := Fields.ofList
    ((sortedNames (columns ++ primaryKeys)).map fun column => (column, Expr.member name column))
  increasing := pairwise_sortedNames _
  keys_subset _ mem := mem_sortedNames.mpr (List.mem_append_right _ mem)
  accessible := Fields.find?_ofList_map (Expr.member name) _

def withDatabase (database : String) (table : Table) : Table :=
  { table with database := database }

def withDelimiter (delimiter : String) (table : Table) : Table :=
  { table with delimiter := delimiter }

def withMapping (mapping : Json) (table : Table) : Table :=
  { table with mapping := some mapping }

def hasColumn (table : Table) (column : String) : Bool :=
  Fields.has column table.accessors

/-- The expression of a column, if the table has it. -/
def column? (table : Table) (column : String) : Option Expr :=
  Fields.find? column table.accessors

/-- The expression of a column; an error for a column the table does not
have. -/
def column (table : Table) (column : String) : Result Expr :=
  match table.column? column with
  | some e => .ok e
  | none => .error (.unknownColumn column table.name)

theorem column_eq_ok_iff {table : Table} {column : String} {e : Expr} :
    table.column column = .ok e ↔ column ∈ table.columns ∧ e = .member table.name column := by
  rw [Table.column, column?, table.accessible]
  by_cases mem : column ∈ table.columns
  · simp [mem, eq_comm]
  · simp [mem]

/-- The key of a table with exactly one primary key.  Only such a table gets
keys from the server. -/
def singleKey? (table : Table) : Option String :=
  match table.primaryKeys with
  | [key] => some key
  | _ => none

/-- The text of a key part: strings as they are, other values as JSON. -/
def keyText : Json → String
  | .str s => s
  | value => Json.compact value

/-- The key parts that a row carries, in key order.  A null is no key part. -/
def keyParts (table : Table) (row : Row) : List String :=
  table.primaryKeys.filterMap fun key =>
    match Fields.find? key row with
    | none | some .null => none
    | some value => some (keyText value)

/-- The document id of a row: its key parts joined by the delimiter, none if
it carries no key. -/
def documentId? (table : Table) (row : Row) : Option String :=
  match table.keyParts row with
  | [] => none
  | parts => some (table.delimiter.intercalate parts)

/-- The columns of the table for which a row has an entry, null or not. -/
def presentColumns (table : Table) (row : Row) : List String :=
  table.columns.filter fun column => Fields.has column row

/-- The conditions that columns of a record have the values of an example, for the
columns of the table that the example has. -/
def likenesses (table : Table) (row : Row) : List Expr :=
  table.columns.filterMap fun column => do
    let value ← Fields.find? column row
    let accessor ← table.column? column
    return Expr.binary .eq accessor (Expr.literal (Value.ofJson value))

/-- The condition that the columns of a record have the values of an example;
none if the example has no column of the table. -/
def rowFilter? (table : Table) (row : Row) : Option Expr :=
  match table.likenesses row with
  | [] => none
  | first :: rest => some (rest.foldl (Expr.binary .and) first)

end Table

end Polyquery
