import Polyquery.Database.Basic
import Polyquery.Proofs.Sql.Runs

/-!
# Assigned keys

The keys of all runs come in one list and are put into the rows that lack the key, in
order.  Each reaches its own row, because a run has keys in the list exactly if all of its
rows lack the key, and then as many keys as rows.
-/

namespace Polyquery

namespace Table.assignKeys

variable {key : String} {rows more : List Row} {ids others : List Json}

theorem fill_nil (rows : List Row) : fill key rows [] = rows := by
  cases rows <;> rfl

/-- Rows that carry the key take no key from the list. -/
theorem fill_append_of_has (carry : ∀ row ∈ rows, Fields.has key row = true) :
    fill key (rows ++ more) ids = rows ++ fill key more ids := by
  induction rows with
  | nil => rfl
  | cons row rest ih =>
      obtain ⟨carries, restCarry⟩ := List.forall_mem_cons.mp carry
      cases ids with
      | nil => rw [fill_nil, fill_nil]
      | cons id ids =>
          rw [List.cons_append, fill, if_pos carries, ih restCarry]
          rfl

/-- Rows that lack the key take one key each. -/
theorem fill_append_of_lacks (lack : ∀ row ∈ rows, Fields.has key row = false)
    (enough : ids.length = rows.length) :
    fill key (rows ++ more) (ids ++ others) =
      List.zipWith (fun row id => Fields.set key id row) rows ids ++ fill key more others := by
  induction rows generalizing ids with
  | nil =>
      rw [List.eq_nil_of_length_eq_zero enough]
      rfl
  | cons row rest ih =>
      obtain ⟨lacks, restLack⟩ := List.forall_mem_cons.mp lack
      cases ids with
      | nil => cases enough
      | cons id ids =>
          rw [List.cons_append, List.cons_append, fill, if_neg (by simp [lacks]),
            ih restLack (Nat.succ.inj enough)]
          rfl

end Table.assignKeys

namespace UpsertRun

/-- The rows of some runs after the answers to the statements of each run: rows that lack
the key get the keys in the answers to their run by position, and rows that carry it stay
as they are. -/
inductive Filled {α : Type} (key : String) (Assigned : UpsertRun → α → List Json → Prop) :
    List UpsertRun → List α → List Row → Prop
  | nil : Filled key Assigned [] [] []
  | lacking {run : UpsertRun} {answer : α} {ids : List Json} {runs : List UpsertRun}
      {answers : List α} {rows : List Row} (lacks : key ∉ run.columns)
      (assigned : Assigned run answer ids) (others : Filled key Assigned runs answers rows) :
      Filled key Assigned (run :: runs) (answer :: answers)
        (List.zipWith (fun row id => Fields.set key id row) run.rows ids ++ rows)
  | carrying {run : UpsertRun} {answer : α} {runs : List UpsertRun} {answers : List α}
      {rows : List Row} (carries : key ∈ run.columns)
      (others : Filled key Assigned runs answers rows) :
      Filled key Assigned (run :: runs) (answer :: answers) (run.rows ++ rows)

variable {α : Type} {key : String} {Assigned : UpsertRun → α → List Json → Prop}
  {collect : UpsertRun → α → List Json} {table : Table} {rows filled : List Row}
  {runs : List UpsertRun} {answers : List α}

/-- A database collects the keys that were assigned to the rows of runs that lack the key. -/
structure Collects (key : String) (Assigned : UpsertRun → α → List Json → Prop)
    (collect : UpsertRun → α → List Json) : Prop where
  lacking : ∀ {run answer ids}, key ∉ run.columns → Assigned run answer ids →
    collect run answer = ids ∧ ids.length = run.rows.length
  carrying : ∀ {run answer}, key ∈ run.columns → collect run answer = []

theorem Filled.fill_eq (becomes : Filled key Assigned runs answers filled)
    (collects : Collects key Assigned collect)
    (alike : ∀ run ∈ runs, ∀ row ∈ run.rows, Fields.has key row = true ↔ key ∈ run.columns) :
    Table.assignKeys.fill key (runs.flatMap UpsertRun.rows)
      (List.zipWith collect runs answers).flatten = filled := by
  induction becomes with
  | nil => rfl
  | @lacking run answer ids runs answers rows lacks assigned others ih =>
      obtain ⟨ofRun, ofOthers⟩ := List.forall_mem_cons.mp alike
      obtain ⟨collected, enough⟩ := collects.lacking lacks assigned
      have lack : ∀ row ∈ run.rows, Fields.has key row = false := by
        intro row mem
        rw [Bool.eq_false_iff]
        exact fun has => lacks ((ofRun row mem).mp has)
      rw [List.flatMap_cons, List.zipWith_cons_cons, List.flatten_cons, collected,
        Table.assignKeys.fill_append_of_lacks lack enough, ih ofOthers]
  | @carrying run answer runs answers rows carries others ih =>
      obtain ⟨ofRun, ofOthers⟩ := List.forall_mem_cons.mp alike
      rw [List.flatMap_cons, List.zipWith_cons_cons, List.flatten_cons, collects.carrying carries,
        List.nil_append,
        Table.assignKeys.fill_append_of_has fun row mem => (ofRun row mem).mpr carries, ih ofOthers]

/-- The keys that are collected run by run reach the rows that they were assigned to. -/
theorem Filled.assignKeys_eq (becomes : Filled key Assigned runs answers filled)
    (partition : IsPartition table rows runs) (keys : table.primaryKeys = [key])
    (collects : Collects key Assigned collect) :
    table.assignKeys rows (List.zipWith collect runs answers).flatten = filled := by
  rw [Table.assignKeys, Table.singleKey?_eq_some.mpr keys, ← partition.rows_eq]
  exact becomes.fill_eq collects fun run mem row inRun => partition.has_iff keys mem inRun

end UpsertRun

theorem Table.assignKeys_eq_self {table : Table} (others : ∀ key, table.primaryKeys ≠ [key])
    (rows : List Row) (ids : List Json) : table.assignKeys rows ids = rows := by
  have none : table.singleKey? = none := by
    rw [Option.eq_none_iff_forall_ne_some]
    exact fun key single => others key (Table.singleKey?_eq_some.mp single)
  rw [assignKeys, none]

end Polyquery
