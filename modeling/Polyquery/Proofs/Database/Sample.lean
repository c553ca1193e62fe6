import Polyquery.Database.Recorder
import Polyquery.Database.Rows
import Polyquery.Proofs.Document.Generation
import Polyquery.Proofs.Session

/-!
# Deleting by example

The condition that an example becomes compares the columns that the example and the table
share, and no others.  It says of a record that it has the values of the example, whatever
it means for two values to be equal: as values, or as SQL has it, where nothing equals
null.  A selection and a deletion with the same example have the same condition, and there
is no deletion without one.
-/

namespace Polyquery

open Result (Succeeds)
open Sql

/-! ## Conditions on records -/

namespace Sql

theorem and3_eq_true {p q : Truth} : and3 p q = some true ↔ p = some true ∧ q = some true := by
  rcases p with _ | _ | _ <;> rcases q with _ | _ | _ <;> decide

end Sql

namespace Expr

variable {compares : Operator → Value → Value → Truth} {record : String → Value}

/-- The value of an operand on a record. -/
def operandOn (record : String → Value) : Expr → Value
  | .node (.op .member) [_, .node (.reference column) _] => record column
  | .node (.literal v) _ => v
  | _ => .null

/-- The truth value of a condition on a record, for a meaning of the comparisons. -/
def judged (compares : Operator → Value → Value → Truth) (record : String → Value) : Expr → Truth
  | .node (.op .and) [left, right] =>
    and3 (left.judged compares record) (right.judged compares record)
  | .node (.op .or) [left, right] =>
    or3 (left.judged compares record) (right.judged compares record)
  | .node (.op .not) [operand] => not3 (operand.judged compares record)
  | .node (.op .isNull) [operand] => isNull3 (operand.operandOn record)
  | .node (.op .isNotNull) [operand] => not3 (isNull3 (operand.operandOn record))
  | .node (.op o) [left, right] => compares o (left.operandOn record) (right.operandOn record)
  | _ => none

theorem value_eq_operandOn (assignment : Assignment) (e : Expr) :
    e.value assignment = e.operandOn assignment.column := by
  unfold value operandOn
  rfl

/-- The comparison of SQL is one of the meanings. -/
theorem truth_eq_judged (assignment : Assignment) (e : Expr) :
    e.truth assignment = e.judged assignment.compares assignment.column := by
  fun_induction truth assignment e <;> simp_all [judged, value_eq_operandOn]

/-- Conditions joined by `and` hold if each of them does. -/
theorem judged_foldl_and (first : Expr) (rest : List Expr) :
    (rest.foldl (Expr.binary .and) first).judged compares record = some true ↔
      ∀ e ∈ first :: rest, e.judged compares record = some true := by
  induction rest generalizing first with
  | nil => rw [List.foldl_nil, List.forall_mem_singleton]
  | cons e rest ih =>
      have joined : (Expr.binary .and first e).judged compares record = some true ↔
          first.judged compares record = some true ∧ e.judged compares record = some true :=
        and3_eq_true
      rw [List.foldl_cons, ih]
      simp only [List.forall_mem_cons, joined, and_assoc]

end Expr

/-! ## The condition of an example -/

namespace Table

variable {table : Table} {row : Row} {condition : Expr}

/-- Each column that an example shares with the table is compared with its value. -/
theorem mem_likenesses {e : Expr} : e ∈ table.likenesses row ↔
    ∃ column ∈ table.columns, ∃ value, Fields.find? column row = some value ∧
      Expr.binary .eq (Expr.member table.name column) (Expr.literal (Value.ofJson value)) = e := by
  rw [likenesses, List.mem_filterMap]
  refine exists_congr fun column => and_congr_right fun mem => ?_
  have accessor : table.column? column = some (Expr.member table.name column) := by
    rw [column?, table.accessible, if_pos mem]
  cases Fields.find? column row <;> simp [accessor]

/-- A table without a column in an example gets no condition from it. -/
theorem rowFilter?_eq_none_iff :
    table.rowFilter? row = none ↔ ∀ column ∈ table.columns, Fields.has column row = false := by
  have empty : table.likenesses row = [] ↔
      ∀ column ∈ table.columns, Fields.has column row = false := by
    constructor
    · intro nothing column mem
      cases carried : Fields.find? column row with
      | none => rw [Fields.has, carried]; rfl
      | some value =>
          have alike := mem_likenesses.mpr ⟨column, mem, value, carried, rfl⟩
          rw [nothing] at alike
          cases alike
    · intro apart
      refine List.eq_nil_iff_forall_not_mem.mpr fun e alike => ?_
      obtain ⟨column, mem, value, carried, -⟩ := mem_likenesses.mp alike
      have missing := apart column mem
      rw [Fields.has, carried] at missing
      cases missing
  rw [← empty, rowFilter?]
  cases table.likenesses row with
  | nil => exact iff_of_true rfl rfl
  | cons first rest => exact iff_of_false (Option.some_ne_none _) (List.cons_ne_nil _ _)

theorem exists_of_rowFilter?_eq_some (found : table.rowFilter? row = some condition) :
    ∃ first rest, table.likenesses row = first :: rest ∧
      condition = rest.foldl (Expr.binary .and) first := by
  rw [rowFilter?] at found
  cases alike : table.likenesses row with
  | nil =>
      rw [alike] at found
      cases found
  | cons first rest =>
      rw [alike] at found
      exact ⟨first, rest, rfl, (Option.some.inj found).symm⟩

theorem isCondition_of_rowFilter? (found : table.rowFilter? row = some condition) :
    condition.IsCondition table.name := by
  obtain ⟨first, rest, alike, rfl⟩ := exists_of_rowFilter?_eq_some found
  have each : ∀ e ∈ first :: rest, e.IsCondition table.name := by
    intro e mem
    rw [← alike] at mem
    obtain ⟨column, -, value, -, rfl⟩ := mem_likenesses.mp mem
    exact .compare column _ rfl
  obtain ⟨ofFirst, ofRest⟩ := List.forall_mem_cons.mp each
  exact Filter.isCondition_foldl (.inl rfl) ofFirst ofRest

/-- The condition of an example holds on the records that have its values. -/
theorem judged_of_rowFilter? (found : table.rowFilter? row = some condition)
    (compares : Operator → Value → Value → Truth) (record : String → Value) :
    condition.judged compares record = some true ↔
      ∀ column ∈ table.columns, ∀ value, Fields.find? column row = some value →
        compares .eq (record column) (Value.ofJson value) = some true := by
  obtain ⟨first, rest, alike, rfl⟩ := exists_of_rowFilter?_eq_some found
  rw [Expr.judged_foldl_and, ← alike]
  constructor
  · intro each column mem value carried
    exact each _ (mem_likenesses.mpr ⟨column, mem, value, carried, rfl⟩)
  · intro each e mem
    obtain ⟨column, isColumn, value, carried, rfl⟩ := mem_likenesses.mp mem
    exact each column isColumn value carried

end Table

/-! ## Queries that are always written -/

namespace Query

variable {query : Query}

/-- A selection or deletion over columns that names none of them anew is written for every
backend. -/
theorem OverColumns.succeeds_generate (columns : query.OverColumns)
    (command : query.command ≠ .upsert) (aliases : query.aliases = []) (backend : Backend)
    (mode : Mode) : Succeeds (backend.generate mode query) := by
  have sql (d : Dialect) : Succeeds (d.backend.generate mode query) := by
    rw [Backend.succeeds_generate, (columns.complete command).statements_eq mode]
    exact Result.succeeds_ok _
  cases backend with
  | mysql => exact sql .mysql
  | sqlite => exact sql .sqlite
  | postgres => exact sql .postgres
  | elastic =>
      rw [Backend.succeeds_generate_elastic, Search.Envelope.succeeds_ofQuery columns]
      exact .inr aliases

end Query

/-! ## Deletions -/

namespace Database

variable {σ : Type} {table : Table} {row : Row} {condition : Expr}

theorem delete_of_none (none : table.rowFilter? row = none) (db : Database σ)
    (handle : Option Handle) :
    db.delete table (.matching row) handle =
      throw (.generation (.noFilterColumns table.name)) := by
  rw [delete, deletion, none]
  rfl

/-- The deletion of what meets a condition. -/
def deletionOf (table : Table) (condition : Expr) : Query :=
  { Query.ofTable table with command := .delete, filters := [condition] }

theorem succeeds_generate_deletionOf (found : table.rowFilter? row = some condition)
    (db : Database σ) : Succeeds (db.generate (deletionOf table condition)) := by
  have columns : (deletionOf table condition).OverColumns :=
    { selected := nofun
      aliases := nofun
      filters := List.forall_mem_singleton.mpr (Table.isCondition_of_rowFilter? found)
      sorts := nofun }
  exact columns.succeeds_generate nofun rfl db.backend .placeholders

theorem delete_of_some (found : table.rowFilter? row = some condition) (db : Database σ)
    (handle : Option Handle) :
    ∃ generated, db.generate (deletionOf table condition) = .ok generated ∧
      db.delete table (.matching row) handle = db.execute generated handle := by
  obtain ⟨generated, made⟩ := succeeds_generate_deletionOf found db
  refine ⟨generated, made, ?_⟩
  have same : db.delete table (.matching row) handle =
      db.run (deletionOf table condition) handle := by
    rw [delete, deletion, found]
    rfl
  rw [same, run, made]
  rfl

theorem select_of_some (found : table.rowFilter? row = some condition) (db : Database σ)
    (columns : List String) (handle : Option Handle) :
    db.select table columns (some row) handle =
      Session.ofResult ((if columns.isEmpty then table.columns else columns).mapM table.column) >>=
        fun selected => db.run { Query.ofTable table with
          selected := selected
          filters := [condition] } handle := by
  rw [select, selection, Option.bind_some, found]
  cases (if columns.isEmpty then table.columns else columns).mapM table.column <;> rfl

/-- A call is written down, also if it fails. -/
theorem calls_record (recorder : Recorder) (call : Call) (calls : List Call) :
    ((recorder.record call).run calls).2 = calls ++ [call] := by
  rw [Recorder.record, Session.run_bind, Session.run_modify]
  dsimp only
  split <;> rfl

theorem calls_execute (recorder : Recorder) (generated : Generated) (handle : Option Handle)
    (calls : List Call) :
    ((recorder.database.execute generated handle).run calls).2 =
      calls ++ [.execute generated handle] := by
  rw [← calls_record recorder]
  refine Session.state_bind _ _ _ fun _ after => ?_
  cases recorder.transactions <;> cases handle <;> rfl

/-- An example without a column of the table deletes nothing: no call is made, and the failure
says so.  With any other example one query is run, which deletes what meets a condition, and
a selection with the same example has the same condition.  Whatever it means for two values
to be equal, the condition holds on the records with the values that the example has in
columns of the table. -/
theorem delete_matching (table : Table) (row : Row) (handle : Option Handle) :
    (∀ (recorder : Recorder) (calls : List Call),
      (∃ cause, (recorder.database.delete table (.matching row) handle).run calls =
          (.error (.generation cause), calls)) ↔
        ∀ column ∈ table.columns, Fields.has column row = false) ∧
    ((∀ column ∈ table.columns, Fields.has column row = false) →
      ∀ {σ : Type} (db : Database σ), db.delete table (.matching row) handle =
        throw (.generation (.noFilterColumns table.name))) ∧
    ((∃ column ∈ table.columns, Fields.has column row = true) → ∃ condition,
      (∀ {σ : Type} (db : Database σ),
        (∃ generated, db.generate (deletionOf table condition) = .ok generated ∧
          db.delete table (.matching row) handle = db.execute generated handle) ∧
          ∀ columns, db.select table columns (some row) handle =
            Session.ofResult
                ((if columns.isEmpty then table.columns else columns).mapM table.column) >>=
              fun selected => db.run { Query.ofTable table with
                selected := selected
                filters := [condition] } handle) ∧
      ∀ (compares : Operator → Value → Value → Truth) (record : String → Value),
        condition.judged compares record = some true ↔
          ∀ column ∈ table.columns, ∀ value, Fields.find? column row = some value →
            compares .eq (record column) (Value.ofJson value) = some true) := by
  refine ⟨fun recorder calls => ?_, fun apart σ db => ?_, fun ⟨column, mem, has⟩ => ?_⟩
  · rw [← Table.rowFilter?_eq_none_iff]
    cases found : table.rowFilter? row with
    | none =>
        rw [delete_of_none found]
        exact iff_of_true ⟨_, rfl⟩ rfl
    | some condition =>
        obtain ⟨generated, -, same⟩ := delete_of_some found recorder.database handle
        refine iff_of_false (fun ⟨cause, ran⟩ => ?_) (Option.some_ne_none _)
        -- the query is written down even if it fails, so that the calls are not what they were
        have written := calls_execute recorder generated handle calls
        rw [← same, ran] at written
        simp at written
  · exact delete_of_none (Table.rowFilter?_eq_none_iff.mpr apart) db handle
  · cases found : table.rowFilter? row with
    | none =>
        have missing := Table.rowFilter?_eq_none_iff.mp found column mem
        rw [has] at missing
        cases missing
    | some condition =>
        have both {σ : Type} (db : Database σ) := And.intro (delete_of_some found db handle)
          fun columns => select_of_some found db columns handle
        exact ⟨condition, both, Table.judged_of_rowFilter? found⟩

/-- A table of films. -/
def filmTable : Table :=
  Table.ofColumns "films" ["id"] ["title", "year"]

/-- A film that is known by its title, its year and a note that the table has no column for. -/
def charade : Row :=
  [("note", .str "lost"), ("title", .str "Charade"), ("year", .nat 1963)]

/-- With the note alone nothing is deleted.  With the title and the year, a film that has
them is. -/
theorem delete_matching_charade :
    (∀ column ∈ filmTable.columns, Fields.has column [("note", Json.str "lost")] = false) ∧
    ((Recorder.database ⟨.elastic, [], [], false⟩).delete filmTable
        (.matching [("note", .str "lost")]) none).run [] =
      (.error (.generation (.noFilterColumns "films")), []) ∧
    (∃ column ∈ filmTable.columns, Fields.has column charade = true) ∧
    ∃ condition,
      (∃ generated, Backend.elastic.generate .placeholders (deletionOf filmTable condition) =
        .ok generated) ∧
      condition.judged (fun _ a b => some (decide (a = b)))
        (fun column => if column = "title" then .str "Charade" else .int 1963) = some true := by
  have apart : ∀ column ∈ filmTable.columns,
      Fields.has column [("note", Json.str "lost")] = false := by decide
  have shared : ∃ column ∈ filmTable.columns, Fields.has column charade = true := by decide
  obtain ⟨condition, both, judged⟩ := (delete_matching filmTable charade none).2.2 shared
  obtain ⟨⟨generated, made, -⟩, -⟩ := both (Recorder.database ⟨.elastic, [], [], false⟩)
  refine ⟨apart, ?_, shared, condition, ⟨generated, made⟩, (judged _ _).mpr ?_⟩
  · rw [(delete_matching filmTable [("note", .str "lost")] none).2.1 apart]
    rfl
  · intro column mem value found
    have columns : filmTable.columns = ["id", "title", "year"] := by decide
    rw [columns, List.mem_cons, List.mem_cons, List.mem_singleton] at mem
    rcases mem with rfl | rfl | rfl
    · cases found
    · cases found
      rfl
    · cases found
      rfl

end Database

end Polyquery
