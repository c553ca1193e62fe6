import Mathlib.Data.List.Forall2
import Polyquery.Proofs.Sql.Inlining
import Polyquery.Proofs.Sql.Runs

/-!
# Statements of an upsert

An upsert has one storing statement for each run of its rows, and its parameters are the
fields of the rows, row after row.  The statement of a run names the columns of the run
and has one tuple of placeholders for each row.  What PostgreSQL has behind the tuples
uses only parameters that stand in a tuple.
-/

namespace Polyquery

open Piece

variable {d : Dialect}

/-! ## Texts -/

namespace Dialect

variable (d : Dialect)

/-- What stands between the items of a list. -/
def comma : Dialect → String
  | mysql | sqlite => ", "
  | postgres => ","

/-- Texts in parentheses. -/
def listed (items : List String) : String :=
  "(" ++ d.comma.intercalate items ++ ")"

/-- The words that store a number of rows with some columns, with numbered placeholders for
the fields. -/
def storingText (table : String) (columns : List String) (count : Nat) : String :=
  d.keyword .upsert ++ " INTO " ++ d.quoteName table ++ " " ++ d.listed (columns.map d.quoteName) ++
    " VALUES " ++ d.comma.intercalate ((List.range count).map fun i =>
      d.listed ((List.range' (i * columns.length + 1) columns.length).map d.placeholder))

end Dialect

/-- Items with equally many values are numbered at equal distances. -/
theorem Writing.threaded_uniform {α β : Type} {make : Nat → β} {values : α → List Value}
    {width : Nat} {items : List α} (uniform : ∀ item ∈ items, (values item).length = width)
    (n : Nat) : threaded (fun n _ => make n) values n items =
      (List.range items.length).map fun i => make (n + i * width) := by
  induction items generalizing n with
  | nil => rfl
  | cons item rest ih =>
      rw [threaded, ih fun other mem => uniform other (List.mem_cons_of_mem item mem),
        uniform item List.mem_cons_self, List.length_cons, List.range_succ_eq_map, List.map_cons,
        List.map_map, Nat.zero_mul, Nat.add_zero]
      congr 1
      apply List.map_congr_left
      intro i _
      rw [Function.comp_apply, Nat.succ_mul, Nat.add_assoc, Nat.add_comm width]

theorem Piece.chars_separated {parameter : Nat → String} (separator : String)
    (items : List (List Piece)) :
    chars d parameter (separated separator items) =
      separator.toList.intercalate (items.map (chars d parameter)) := by
  induction items with
  | nil => rfl
  | cons first rest ih =>
      cases rest with
      | nil => simp [separated]
      | cons second others =>
          have tail : separated separator (first :: second :: others) =
              first ++ .text separator :: separated separator (second :: others) := by
            rw [separated, List.intercalate_cons_cons, List.append_assoc]
            rfl
          rw [tail, chars_append, chars_text_cons, ih, List.map_cons, List.map_cons, List.map_cons,
            List.intercalate_cons_cons, List.append_assoc]

/-- A tuple of pieces is a list of their texts in parentheses. -/
theorem chars_tuple {parameter : Nat → String} {items : List (List Piece)} {texts : List String}
    (spelled : items.map (chars d parameter) = texts.map String.toList) :
    chars d parameter (UpsertRun.tuple d.comma items) = (d.listed texts).toList := by
  rw [UpsertRun.tuple, chars_append, chars_append, chars_singleton, chars_singleton,
    chars_separated, spelled, Dialect.listed, String.toList_append, String.toList_append,
    String.toList_intercalate]
  rfl

/-! ## Runs -/

/-- The values of the columns of the table that a row has. -/
def Table.presentValues (table : Table) (row : Row) : List Value :=
  table.columns.filterMap fun column => (Fields.find? column row).map Value.ofJson

namespace UpsertRun

variable (table : Table) (run : UpsertRun)

theorem length_rowValues (row : Row) : (run.rowValues row).length = run.columns.length :=
  List.length_map _

theorem length_values : run.values.length = run.rows.length * run.columns.length := by
  rw [values, List.length_flatMap, List.map_congr_left fun row _ => run.length_rowValues row,
    List.map_const', List.sum_replicate_nat]

/-- The parameters of a row are the values that the row has. -/
theorem rowValues_eq {row : Row} (present : table.presentColumns row = run.columns) :
    run.rowValues row = table.presentValues row := by
  rw [rowValues, ← present, Table.presentColumns, Table.presentValues, ← List.filterMap_eq_map,
    List.filterMap_filter]
  apply List.filterMap_congr
  intro column _
  cases found : Fields.find? column row <;> simp [Fields.has, found]

theorem writtenRows_eq : run.writtenRows =
    (List.range run.rows.length).map fun i => run.rowPieces (i * run.columns.length) := by
  rw [writtenRows, Writing.threaded_uniform fun row _ => run.length_rowValues row]
  simp only [Nat.zero_add]

theorem chars_valuesPieces :
    chars d d.placeholder (run.valuesPieces d table d.comma) =
      (d.storingText table.name run.columns run.rows.length).toList := by
  have columns : run.columnNames.map (chars d d.placeholder) =
      (run.columns.map d.quoteName).map String.toList := by
    rw [columnNames, List.map_map, List.map_map]
    exact List.map_congr_left fun column _ => chars_singleton _
  have row (n : Nat) : (run.rowPieces n).map (chars d d.placeholder) =
      ((List.range' (n + 1) run.columns.length).map d.placeholder).map String.toList := by
    rw [rowPieces, List.range'_succ_left, List.map_map, List.map_map, List.map_map]
    exact List.map_congr_left fun k _ => chars_singleton _
  have rows : (run.writtenRows.map (tuple d.comma)).map (chars d d.placeholder) =
      ((List.range run.rows.length).map fun i => d.listed ((List.range' (i * run.columns.length + 1)
        run.columns.length).map d.placeholder)).map String.toList := by
    rw [writtenRows_eq, List.map_map, List.map_map, List.map_map]
    exact List.map_congr_left fun i _ => chars_tuple (row _)
  rw [valuesPieces, chars_append, chars_append, chars_append, chars_tuple columns, chars_separated,
    rows, Dialect.storingText]
  simp only [String.toList_append, String.toList_intercalate, Piece.spell, chars,
    List.flatMap_cons, List.flatMap_nil, List.append_assoc, List.append_nil]

/-! ## Statements -/

/-- A statement that stores the rows of a run. -/
structure Stores (d : Dialect) (table : Table) (run : UpsertRun) (statement : Statement) :
    Prop where
  /-- Only PostgreSQL has something behind the tuples. -/
  text : ∃ behind, statement.text =
    d.storingText table.name run.columns run.rows.length ++ behind ++ ";" ∧
      (d ≠ .postgres → behind = "")
  values : statement.values = run.rows.flatMap table.presentValues
  count : statement.values.length = run.rows.length * run.columns.length
  /-- No placeholder has another number than those in the tuples. -/
  known : d.holes statement.text ⊆ (List.range' 1 statement.values.length).map d.placeholder

/-- What stands between the tuples and the semicolon. -/
def behindPieces (d : Dialect) (table : Table) (run : UpsertRun) : List Piece :=
  match d with
  | .mysql | .sqlite => []
  | .postgres => run.conflictClause table run.writtenRows ++ returningClause table

theorem pieces_eq : run.pieces d table =
    run.valuesPieces d table d.comma ++ run.behindPieces d table ++ [.text ";"] := by
  cases d with
  | mysql => rw [behindPieces, List.append_nil]; rfl
  | sqlite => rw [behindPieces, List.append_nil]; rfl
  | postgres => rw [behindPieces, ← List.append_assoc]; rfl

theorem toList_text : ((⟨run.pieces d table, run.values⟩ : Draft).spell d d.placeholder).toList =
    (d.storingText table.name run.columns run.rows.length ++
      String.ofList (chars d d.placeholder (run.behindPieces d table)) ++ ";").toList := by
  rw [Draft.toList_spell, pieces_eq, chars_append, chars_append, chars_valuesPieces,
    chars_singleton, String.toList_append, String.toList_append, String.toList_ofList]
  rfl

variable {table run}

theorem stores_statement (some : run.columns ≠ [])
    (columns : ∀ row ∈ run.rows, table.presentColumns row = run.columns) :
    run.Stores d table
      (Draft.statement d .placeholders ⟨run.pieces d table, run.values⟩) where
  text := by
    refine ⟨_, String.toList_inj.mp (run.toList_text table), fun different => ?_⟩
    cases d with
    | mysql => rfl
    | sqlite => rfl
    | postgres => exact absurd rfl different
  values := List.flatMap_congr fun row mem => run.rowValues_eq table (columns row mem)
  count := run.length_values
  known := by
    have made := drafts_eq d table run some
    have terminated : Terminated (IsSplit d) (run.pieces d table) :=
      terminated_of_mem_drafts isSplit_name isSplit_bound table run isSplit_value made
        List.mem_cons_self
    change d.holes (Draft.spell d d.placeholder _) ⊆ _
    rw [Draft.holes_spell terminated]
    exact List.map_subset _ (addressed_pieces d table run).known

/-- The statements of a run. -/
def statements (d : Dialect) (table : Table) (run : UpsertRun) : StatementSet :=
  (⟨run.pieces d table, run.values⟩ :: run.followUp d table).map (Draft.statement d .placeholders)

/-- The statements of a run: SQLite is asked for the number of the last row directly behind
exactly the rows that lack the only key. -/
def Part (d : Dialect) (table : Table) (run : UpsertRun) (part : StatementSet) : Prop :=
  ∃ storing, run.Stores d table storing ∧
    (d = .sqlite ∧ run.LacksKey table ∧
        part = [storing, ⟨"SELECT last_insert_rowid() AS id;", []⟩] ∨
      ¬(d = .sqlite ∧ run.LacksKey table) ∧ part = [storing])

theorem part_statements (some : run.columns ≠ [])
    (columns : ∀ row ∈ run.rows, table.presentColumns row = run.columns) :
    run.Part d table (run.statements d table) := by
  refine ⟨_, stores_statement some columns, ?_⟩
  by_cases asked : d = .sqlite ∧ run.LacksKey table
  · obtain ⟨rfl, lacks⟩ := asked
    refine .inl ⟨rfl, lacks, ?_⟩
    rw [statements, followUp, if_pos (lacksKey_iff.mp lacks)]
    rfl
  · refine .inr ⟨asked, ?_⟩
    have none : run.followUp d table = [] := by
      cases d with
      | mysql => rfl
      | postgres => rfl
      | sqlite =>
          rw [followUp, if_neg]
          exact fun assigned => asked ⟨rfl, lacksKey_iff.mpr assigned⟩
    rw [statements, none]
    rfl

theorem flatMap_values_statements :
    (run.statements d table).flatMap Statement.values = run.values := by
  have none : (run.followUp d table).flatMap Draft.params = [] := by
    rw [List.flatMap_eq_nil_iff]
    intro draft mem
    rw [eq_lastRowId_of_mem_followUp table run mem]
    rfl
  rw [statements, List.flatMap_map, List.flatMap_cons]
  change run.values ++ (run.followUp d table).flatMap Draft.params = run.values
  rw [none, List.append_nil]

end UpsertRun

/-! ## Upserts -/

namespace Query

variable {query : Query}

/-- Runs that have columns are generated one after the other. -/
theorem statements_eq_flatMap (upsert : query.command = .upsert)
    (some : ∀ run ∈ UpsertRun.partition query.table query.upserts, run.columns ≠ []) :
    query.statements d .placeholders =
      .ok ((UpsertRun.partition query.table query.upserts).map
        (UpsertRun.statements d query.table)).flatten := by
  have made : query.drafts d = .ok ((UpsertRun.partition query.table query.upserts).map fun run =>
      ⟨run.pieces d query.table, run.values⟩ :: run.followUp d query.table).flatten := by
    rw [drafts, upsert]
    change Query.upsertDrafts d query = _
    rw [upsertDrafts, Result.mapM_eq_ok fun run mem =>
      run.drafts_eq d query.table (some run mem)]
    rfl
  rw [statements, made]
  change Except.ok (List.map _ _) = _
  rw [List.map_flatten, List.map_map]
  rfl

/-- A run without columns fails, and with it everything. -/
theorem statements_eq_error (upsert : query.command = .upsert)
    (none : ∃ run ∈ UpsertRun.partition query.table query.upserts, run.columns = []) :
    query.statements d .placeholders = .error (.generation (.emptyRow query.table.name)) := by
  obtain ⟨run, mem, columns⟩ := none
  have fails := run.drafts_eq_error d query.table columns
  have alike : ∀ run ∈ UpsertRun.partition query.table query.upserts, ∀ e,
      run.drafts d query.table = .error e → e = .generation (.emptyRow query.table.name) := by
    intro run _ e failed
    by_cases columns : run.columns = []
    · rw [run.drafts_eq_error d query.table columns] at failed
      exact (Except.error.inj failed).symm
    · rw [run.drafts_eq d query.table columns] at failed
      cases failed
  rw [statements, drafts, upsert]
  change (Query.upsertDrafts d query >>= _) = _
  rw [upsertDrafts, Result.mapM_eq_error alike mem fails]
  rfl

/-- An upsert of rows that have columns of the table is generated run by run, and its
parameters are the values of the rows, row after row.  With a row that has none, nothing
is generated. -/
theorem statements_upsert (d : Dialect) (upsert : query.command = .upsert) :
    ((∀ row ∈ query.upserts, query.table.presentColumns row ≠ []) →
      ∃ runs parts, UpsertRun.IsPartition query.table query.upserts runs ∧
        query.statements d .placeholders = .ok parts.flatten ∧
        parts.flatten.flatMap Statement.values =
          query.upserts.flatMap query.table.presentValues ∧
        List.Forall₂ (UpsertRun.Part d query.table) runs parts) ∧
    ((∃ row ∈ query.upserts, query.table.presentColumns row = []) →
      query.statements d .placeholders = .error (.generation (.emptyRow query.table.name))) := by
  have partition := UpsertRun.IsPartition.partition query.table query.upserts
  constructor
  · intro present
    have some : ∀ run ∈ UpsertRun.partition query.table query.upserts, run.columns ≠ [] :=
      fun run mem => partition.columns_ne_nil present mem
    refine ⟨_, _, partition, statements_eq_flatMap upsert some, ?_, ?_⟩
    · have values : ∀ run ∈ UpsertRun.partition query.table query.upserts,
          (run.statements d query.table).flatMap Statement.values =
            run.rows.flatMap query.table.presentValues := by
        intro run mem
        rw [UpsertRun.flatMap_values_statements]
        exact List.flatMap_congr fun row inRun =>
          run.rowValues_eq query.table (partition.columns_eq run mem row inRun)
      rw [← List.flatMap_def, List.flatMap_assoc, List.flatMap_congr values, ← List.flatMap_assoc,
        partition.rows_eq]
    · rw [List.forall₂_map_right_iff, List.forall₂_same]
      intro run mem
      exact UpsertRun.part_statements (some run mem) (partition.columns_eq run mem)
  · rintro ⟨row, mem, none⟩
    exact statements_eq_error upsert (partition.exists_columns_eq_nil mem none)

/-- Rows without a key around one whose key is null. -/
def mixedUpsert : Query :=
  (ofTable (Table.ofColumns "films" ["id"] ["title", "year"])).upsert
    [[("note", .bool true), ("title", .str "?")], [("title", .null)],
      [("id", .null), ("title", .str "Psycho"), ("year", .nat 1960)], [("title", .str "Marnie")]]

/-- The last row has no column of the table. -/
def strayUpsert : Query :=
  (ofTable (Table.ofColumns "films" ["id"] ["title"])).upsert
    [[("title", .str "Frenzy")], [("note", .str "Topaz")]]

theorem statements_upsert_mixedUpsert :
    (∃ set, mixedUpsert.statements .sqlite .placeholders = .ok set ∧
      set.map Statement.text =
        ["REPLACE INTO \"films\" (\"title\") VALUES (?), (?);", "SELECT last_insert_rowid() AS id;",
          "REPLACE INTO \"films\" (\"id\", \"title\", \"year\") VALUES (?, ?, ?);",
          "REPLACE INTO \"films\" (\"title\") VALUES (?);", "SELECT last_insert_rowid() AS id;"] ∧
      set.flatMap Statement.values =
        [.str "?", .null, .null, .str "Psycho", .int 1960, .str "Marnie"]) ∧
    strayUpsert.statements .postgres .placeholders = .error (.generation (.emptyRow "films")) := by
  constructor
  · obtain ⟨runs, parts, -, generated, values, -⟩ :=
      (@statements_upsert mixedUpsert .sqlite rfl).1 (by decide)
    refine ⟨_, generated, ?_, values.trans (by decide)⟩
    generalize parts.flatten = set at generated
    cases generated
    decide
  · exact (@statements_upsert strayUpsert .postgres rfl).2
      ⟨_, List.mem_cons_of_mem _ List.mem_cons_self, by decide⟩

end Query

end Polyquery
