import Polyquery.Proofs.Fields
import Polyquery.Proofs.Sql.Conflict

/-!
# Conflicts of keys

Where a stored row has the keys of a new one, a run of several rows gives it the values of
the new row.  A single row does so only if it carries every key: a key that it lacks is
null in the condition on the stored row, and nothing is equal to null.
-/

namespace Polyquery

open Sql

/-! ## Rows -/

theorem Row.isNull_valueOf {row : Row} {column : String} :
    (row.valueOf column).isNull ↔
      Fields.has column row = false ∨ Fields.find? column row = some .null := by
  unfold Row.valueOf Fields.has
  cases found : Fields.find? column row with
  | none => simp [Value.isNull]
  | some json =>
      cases json with
      | num n =>
          cases n <;> simp only [Option.map_some, Option.getD_some, Value.ofJson]
          · split <;> simp [Value.isNull]
          · simp [Value.isNull]
      | _ => simp [Value.ofJson, Value.isNull]

namespace UpsertRun

variable (run : UpsertRun) (row : Row)

/-- A stored row with the values of a row in the columns of a run. -/
def overwrite (stored : Stored) : Stored := fun column =>
  if column ∈ run.columns then row.valueOf column else stored column

theorem rowValues_eq_map : run.rowValues row = run.columns.map row.valueOf := rfl

/-! ## Effects -/

variable (mode : Mode) (table : Table)

section Effects

variable {i : Nat} {row}

/-- The values of the rows are as many for each row. -/
theorem getElem?_values (found : run.rows[i]? = some row) {j : Nat}
    (inside : j < run.columns.length) :
    run.values[i * run.columns.length + j]? = (run.rowValues row)[j]? := by
  obtain ⟨columns, rows⟩ := run
  dsimp only [values] at found inside ⊢
  have length (other : Row) : (rowValues ⟨columns, rows⟩ other).length = columns.length :=
    length_rowValues _ other
  generalize rowValues ⟨columns, rows⟩ = value at length
  induction rows generalizing i with
  | nil => cases found
  | cons first rest ih =>
      rw [List.flatMap_cons]
      cases i with
      | zero =>
          cases found
          rw [Nat.zero_mul, Nat.zero_add, List.getElem?_append_left (by rw [length]; exact inside)]
      | succ i =>
          have shifted : (i + 1) * columns.length + j =
              columns.length + (i * columns.length + j) := by
            rw [Nat.succ_mul]
            omega
          rw [shifted, List.getElem?_append_right (by rw [length]; exact Nat.le_add_right _ _),
            length, Nat.add_sub_cancel_left]
          exact ih found

/-- The operands of a row are its values, however an operand is evaluated. -/
theorem mapM_rowOperands {evaluate : Operand → Option Value}
    (found : run.rows[i]? = some row)
    (bound : ∀ k v, run.values[k]? = some v → evaluate (.bound mode run.values (k + 1)) = some v) :
    (run.rowOperands mode (i * run.columns.length)).mapM evaluate = some (run.rowValues row) := by
  have each : ∀ k ∈ List.range' (i * run.columns.length) run.columns.length,
      evaluate (.bound mode run.values (k + 1)) = some (run.values.getD k .null) := by
    intro k mem
    obtain ⟨low, high⟩ := List.mem_range'_1.mp mem
    have inside : k - i * run.columns.length < (run.rowValues row).length := by
      rw [length_rowValues]
      omega
    have known := run.getElem?_values found (run.length_rowValues row ▸ inside)
    rw [Nat.add_sub_cancel' low, List.getElem?_eq_getElem inside] at known
    rw [List.getD_eq_getElem?_getD, known]
    exact bound k _ known
  rw [rowOperands, List.mapM_map, @mapM_eq_some _ _ _ (evaluate ∘ _) _ each]
  congr 1
  apply List.ext_getElem
  · rw [List.length_map, List.length_range', length_rowValues]
  · intro j _ inside
    have known := run.getElem?_values found (run.length_rowValues row ▸ inside)
    rw [List.getElem_map, List.getElem_range', Nat.one_mul, List.getD_eq_getElem?_getD, known,
      List.getElem?_eq_getElem inside, Option.getD_some]

variable (domains : Domains) (stored : Stored)

/-- The values that are sent beside the statement. -/
abbrev sent : List Value :=
  (Draft.statement .postgres mode ⟨run.pieces .postgres table, run.values⟩).values

theorem given?_bound (k : Nat) (v : Value) (known : run.values[k]? = some v) :
    (Operand.bound mode run.values (k + 1)).given? (run.sent mode table) = some v := by
  cases mode with
  | placeholders => exact known
  | inline =>
      rw [Operand.bound, Operand.given?, Nat.add_sub_cancel, List.getD_eq_getElem?_getD, known]
      rfl

/-- A row to be inserted has the values of the row, and else the standard ones. -/
theorem new?_insertion (found : run.rows[i]? = some row) :
    (run.insertion mode table).new? domains (run.sent mode table)
        (run.rowOperands mode (i * run.columns.length)) =
      some (run.overwrite row domains.standard) := by
  rw [Insertion.new?, run.mapM_rowOperands mode found (run.given?_bound mode table)]
  simp only [Option.bind_eq_bind, Option.bind_some, insertion]
  congr 1
  funext column
  rw [rowValues_eq_map, Fields.find?_zip_map, overwrite]
  split <;> rfl

/-- The sources of an update are the values of the row. -/
theorem mapM_sources (found : run.rows[i]? = some row) :
    (run.sources mode).mapM
        (Operand.value? (run.sent mode table) (run.overwrite row domains.standard)) =
      some (run.rowValues row) := by
  unfold sources
  split
  · rename_i only rows
    have first : i = 0 := by
      rw [rows] at found
      exact Nat.lt_one_iff.mp (List.getElem?_eq_some_iff.mp found).1
    subst first
    have read := run.mapM_rowOperands mode found fun k v known =>
      Operand.value?_of_given? _ (run.overwrite row domains.standard)
        (run.given?_bound mode table k v known)
    rwa [Nat.zero_mul] at read
  · rw [List.mapM_map, rowValues_eq_map]
    apply mapM_eq_some
    intro column mem
    exact congrArg some (if_pos mem)

/-- Whether the condition on the key holds for a stored row, if there is one. -/
def Reaches : Prop :=
  ∀ row, run.rows = [row] → domains.Agree table.primaryKeys stored row.valueOf

theorem exists_compared (params : List Value) (new : Stored) :
    ∃ compared, (⟨table.primaryKeys, ⟨run.columns, run.sources mode, run.length_sources mode⟩,
        run.keyLiterals table⟩ : Resolution).compared? params new = some compared ∧
      ((∀ entry ∈ compared, domains.compares entry.1 (stored entry.1) entry.2 = some true) ↔
        run.Reaches table domains stored) := by
  unfold Reaches Domains.Agree Resolution.compared? keyLiterals
  split
  · rename_i pairing condition
    split at condition
    · rename_i row rows
      cases condition
      refine ⟨table.primaryKeys.map fun key => (key, row.valueOf key), ?_, ?_⟩
      · have values := @mapM_eq_some _ _ table.primaryKeys
          (Operand.value? params new ∘ fun key => .literal (row.valueOf key)) _ fun _ _ => rfl
        rw [Pairing.values?, List.mapM_map, values]
        change some _ = some _
        rw [← List.zip_map', List.map_id']
      · rw [List.forall_mem_map, rows]
        constructor
        · rintro all other same
          cases same
          exact all
        · exact fun all => all row rfl
    · cases condition
  · rename_i condition
    split at condition
    · cases condition
    · rename_i several
      exact ⟨[], rfl, iff_of_true (fun _ mem => absurd mem List.not_mem_nil)
        fun row rows => absurd rows (several row)⟩

/-- The effect on a stored row with the keys of a new one. -/
theorem effect?_insertion (found : run.rows[i]? = some row)
    (conflicts : domains.Agree table.primaryKeys stored (run.overwrite row domains.standard)) :
    (run.Reaches table domains stored →
      (run.insertion mode table).effect? domains (run.sent mode table) i stored =
        some (.updated (run.overwrite row stored))) ∧
    (¬ run.Reaches table domains stored →
      (run.insertion mode table).effect? domains (run.sent mode table) i stored = some .kept) := by
  have operands : (run.insertion mode table).rows[i]? =
      some (run.rowOperands mode (i * run.columns.length)) := by
    rw [insertion, UpsertRun.operands, List.getElem?_map, List.getElem?_range
      (List.getElem?_eq_some_iff.mp found).1]
    rfl
  have assigned : ((⟨run.columns, run.sources mode, run.length_sources mode⟩ : Pairing).values?
      (run.sent mode table) (run.overwrite row domains.standard)) =
        some (run.columns.zip (run.rowValues row)) := by
    rw [Pairing.values?, run.mapM_sources mode table domains found]
    rfl
  obtain ⟨compared, evaluated, reaches⟩ := run.exists_compared mode table domains stored
    (run.sent mode table) (run.overwrite row domains.standard)
  have updated : (fun column =>
      (Fields.find? column (run.columns.zip (run.rowValues row))).getD (stored column)) =
        run.overwrite row stored := by
    funext column
    rw [rowValues_eq_map, Fields.find?_zip_map, overwrite]
    split <;> rfl
  have effect := Resolution.effect?_eq domains _ evaluated assigned conflicts
  rw [updated] at effect
  rw [Insertion.effect?_eq operands (run.new?_insertion mode table domains found) rfl, effect]
  exact ⟨fun holds => by rw [if_pos (reaches.mpr holds)],
    fun fails => by rw [if_neg (mt reaches.mp fails)]⟩

end Effects

/-! ## Updates -/

/-- The only statement of a run gives the values of a row to every stored row that has its
keys, where a key that the row lacks has its standard value. -/
def Updates : Prop :=
  ∃ draft insertion, run.drafts .postgres table = .ok [draft] ∧
    draft.insertion? mode = some insertion ∧
    ∀ (domains : Domains) (stored : Stored) (i : Nat) (row : Row), run.rows[i]? = some row →
      domains.Agree table.primaryKeys stored (run.overwrite row domains.standard) →
      insertion.effect? domains (draft.statement .postgres mode).values i stored =
        some (.updated (run.overwrite row stored))

variable {mode table run}

theorem columns_ne_nil_of_hasKey (carries : run.hasKey table) : run.columns ≠ [] := by
  unfold hasKey at carries
  split at carries
  · cases carries
  · exact List.ne_nil_of_mem (List.contains_iff_mem.mp carries)

/-- A run updates what its condition lets through. -/
theorem updates_iff_reaches (carries : run.hasKey table) (some : run.rows ≠ []) :
    run.Updates mode table ↔ ∀ (domains : Domains) (stored : Stored), ∀ row ∈ run.rows,
      domains.Agree table.primaryKeys stored (run.overwrite row domains.standard) →
        run.Reaches table domains stored := by
  have made : run.drafts .postgres table = .ok [⟨run.pieces .postgres table, run.values⟩] :=
    run.drafts_eq .postgres table (columns_ne_nil_of_hasKey carries)
  have read := run.insertion?_pieces mode table carries some
  constructor
  · rintro ⟨draft, insertion, drafted, meant, updates⟩ domains stored row mem agree
    cases made.symm.trans drafted
    cases read.symm.trans meant
    obtain ⟨i, found⟩ := List.mem_iff_getElem?.mp mem
    by_contra unreached
    have kept := (run.effect?_insertion mode table domains stored found agree).2 unreached
    cases kept.symm.trans (updates domains stored i row found agree)
  · intro reaches
    refine ⟨_, _, made, read, fun domains stored i row found agree => ?_⟩
    exact (run.effect?_insertion mode table domains stored found agree).1
      (reaches domains stored row (List.mem_of_getElem? found) agree)

variable {domains : Domains} {stored : Stored} {row : Row} {key : String}

/-- The condition of a single row that lacks a key holds for no stored row. -/
theorem not_reaches (single : run.rows = [row]) (isKey : key ∈ table.primaryKeys)
    (lacks : Fields.has key row = false) : ¬ run.Reaches table domains stored := by
  intro reaches
  have unknown := reaches row single key isKey
  rw [Domains.compares, Row.isNull_valueOf.mpr (.inl lacks), Bool.or_true, if_pos rfl] at unknown
  cases unknown

/-- The columns of a run tell which keys its rows carry. -/
theorem mem_columns_iff (columns : ∀ row ∈ run.rows, table.presentColumns row = run.columns)
    (mem : row ∈ run.rows) (isKey : key ∈ table.primaryKeys) :
    key ∈ run.columns ↔ Fields.has key row = true := by
  rw [← columns row mem, Table.mem_presentColumns]
  exact and_iff_right (table.keys_subset isKey)

/-- Values are equal if they are the same, and all columns have one standard value. -/
def plainDomains (standard : Value) : Domains where
  standard _ := standard
  equal _ a b := a = b

theorem agree_self {standard : Value} {columns : List String} {new : Stored}
    (known : ∀ column ∈ columns, (new column).isNull = false) :
    (plainDomains standard).Agree columns new new := by
  intro column mem
  rw [Domains.compares, known column mem, Bool.or_false, if_neg Bool.false_ne_true]
  exact congrArg some (decide_eq_true rfl)

/-- The statement of a run that carries the first key updates every stored row with the keys
of a row of the run exactly if the run has several rows, or its only row carries all keys or
has null for one, so that it has the keys of no stored row. -/
theorem updates_iff (mode : Mode) (carries : run.hasKey table) (some : run.rows ≠ [])
    (columns : ∀ row ∈ run.rows, table.presentColumns row = run.columns) :
    run.Updates mode table ↔ ∀ row, run.rows = [row] →
      (∀ key ∈ table.primaryKeys, Fields.has key row = true) ∨
        ∃ key ∈ table.primaryKeys, Fields.find? key row = .some .null := by
  rw [updates_iff_reaches carries some]
  constructor
  · intro reaches row single
    by_contra neither
    obtain ⟨lacking, known⟩ := not_or.mp neither
    push Not at lacking known
    obtain ⟨key, isKey, lacks⟩ := lacking
    have mem : row ∈ run.rows := by rw [single]; exact List.mem_cons_self
    -- the stored row that the new one would be has its keys
    refine not_reaches single isKey (Bool.eq_false_iff.mpr lacks)
      (reaches (plainDomains (.bool true)) _ row mem (agree_self fun other otherKey => ?_))
    unfold overwrite
    split
    · rename_i carried
      have has := (mem_columns_iff columns mem otherKey).mp carried
      rw [← Bool.not_eq_true, Row.isNull_valueOf, has]
      simpa using known other otherKey
    · rfl
  · rintro complete domains stored row mem agree other single key isKey
    obtain rfl : row = other := by simpa [single] using mem
    have same := agree key isKey
    rcases complete row single with all | ⟨absent, isAbsent, null⟩
    · rwa [overwrite, if_pos ((mem_columns_iff columns mem isKey).mpr (all key isKey))] at same
    · have unknown := agree absent isAbsent
      have carried : absent ∈ run.columns :=
        (mem_columns_iff columns mem isAbsent).mpr (by rw [Fields.has, null]; rfl)
      rw [overwrite, if_pos carried, Domains.compares, Row.isNull_valueOf.mpr (.inr null),
        Bool.or_true, if_pos rfl] at unknown
      cases unknown

/-- The run of a single row. -/
def ofRow (table : Table) (row : Row) : UpsertRun := ⟨table.presentColumns row, [row]⟩

/-- The day of a screening is a key that has a standard value. -/
def screenings : Table := Table.ofColumns "screenings" ["cinema", "day"] ["film"]

def evening : Row := [("cinema", .str "Odeon"), ("film", .str "Marnie")]

/-- A film in another cinema. -/
def matinee : Row := [("cinema", .str "Rex"), ("film", .str "Rope")]

/-- Screenings are on Sundays unless said otherwise. -/
def sundays : Domains := plainDomains (.str "Sunday")

/-- The screening that is stored already. -/
def billed : Stored
  | "cinema" => .str "Odeon"
  | "film" => .str "Psycho"
  | _ => .str "Sunday"

theorem updates_iff_screenings :
    ¬ (ofRow screenings evening).Updates .placeholders screenings ∧
      (⟨["cinema", "film"], [evening, matinee]⟩ : UpsertRun).Updates .inline screenings := by
  constructor
  · rw [updates_iff .placeholders (by decide) (by decide) (by decide)]
    intro complete
    rcases complete evening rfl with all | ⟨key, isKey, null⟩
    · exact absurd (all "day" (by decide)) (by decide)
    · rw [show screenings.primaryKeys = ["cinema", "day"] from rfl] at isKey
      fin_cases isKey <;> simp [evening, Fields.find?] at null
  · rw [updates_iff .inline (by decide) (by decide) (by decide)]
    intro row single
    cases single

/-- The key that the row lacks is null in the condition, although it has the standard value
of the stored row, which is not updated. -/
theorem kept_evening : ∃ draft insertion,
    (ofRow screenings evening).drafts .postgres screenings = .ok [draft] ∧
      (draft.statement .postgres .placeholders).text =
        "INSERT INTO \"screenings\" (\"cinema\",\"film\") VALUES ($1,$2)" ++
          " ON CONFLICT (\"cinema\",\"day\") DO UPDATE SET (\"cinema\",\"film\") = ($1,$2)" ++
          " WHERE (\"screenings\".\"cinema\",\"screenings\".\"day\") = ('Odeon',NULL)" ++
          " RETURNING \"cinema\" AS insertid;" ∧
      draft.insertion? .placeholders = some insertion ∧
      sundays.Agree screenings.primaryKeys billed
        ((ofRow screenings evening).overwrite evening sundays.standard) ∧
      insertion.effect? sundays (draft.statement .postgres .placeholders).values 0 billed =
        some .kept := by
  have agree : sundays.Agree screenings.primaryKeys billed
      ((ofRow screenings evening).overwrite evening sundays.standard) := by
    unfold Domains.Agree
    decide
  have isKey : "day" ∈ screenings.primaryKeys := by decide
  have fails : ¬ (ofRow screenings evening).Reaches screenings sundays billed :=
    not_reaches rfl isKey rfl
  refine ⟨_, _, drafts_eq .postgres screenings _ (by decide), by decide +kernel,
    insertion?_pieces .placeholders screenings _ (by decide) (by decide), agree, ?_⟩
  exact ((ofRow screenings evening).effect?_insertion .placeholders screenings sundays billed rfl
    agree).2 fails

end UpsertRun

end Polyquery
