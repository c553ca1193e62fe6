import Polyquery.Mysql.Column
import Polyquery.Proofs.Decimal.Whole
import Polyquery.Proofs.Sql.Upsert

/-!
# Scalars of JSON as values

A scalar becomes a value and then a scalar again.  It is the same one unless it is a whole
number that only 64 bits without a sign hold: such a number comes back as a floating point
number.  Rows that are read and stored again lose exactly these.
-/

namespace Polyquery

open Float.Model (Format)
open Float.Model.UnpackedFloat

/-! ## Finite numbers -/

/-- A number with digits is finite: the exponent that is kept for infinity is not its own. -/
theorem Json.IsFinite.isFinite {x : Float} (finite : IsFinite x) : x.isFinite = true := by
  have biased : (@unpackExponent .binary64 x.toBits.toBitVec).toNat =
      x.toBits.toNat / 4503599627370496 % 2048 := by
    simp [unpackExponent, Nat.shiftRight_eq_div_pow]
  have low : @unpackExponent .binary64 x.toBits.toBitVec ≠
      -1#(Format.exponentBits .binary64) := by
    intro top
    have biased : x.toBits.toNat / 4503599627370496 % 2048 = 2047 := by
      rw [← biased, top]
      rfl
    rw [IsFinite, Decimal.parts, biased] at finite
    simp only [if_true] at finite
    split_ifs at finite
    all_goals exact finite
  change (unpack .binary64 x.toBits.toBitVec).isFinite = true
  rw [unpack]
  simp only [if_neg low]
  split_ifs <;> rfl

/-! ## Scalars -/

namespace Json

/-- Neither a list nor an object. -/
def IsScalar : Json → Prop
  | .arr _ | .obj _ => False
  | _ => True

/-- A whole number above those that 64 bits with a sign hold. -/
def IsWide : Json → Prop
  | .num (.int n) => 9223372036854775807 < n
  | _ => False

end Json

namespace Value

variable {json : Json}

/-- A wide number comes back as the nearest floating point number. -/
theorem toJson_ofJson_wide {n : Int} (whole : Number.fitsWhole n)
    (wide : Json.IsWide (.num (.int n))) :
    (ofJson (.num (.int n))).toJson = .num (.float (Float.ofInt n)) := by
  simp only [Number.fitsWhole, Bool.and_eq_true, decide_eq_true_eq] at whole
  rw [Json.IsWide] at wide
  have unsigned : Number.fitsSigned n = false := by
    simp only [Number.fitsSigned, Bool.and_eq_false_iff, decide_eq_false_iff_not]
    omega
  have finite : (Float.ofInt n).isFinite = true :=
    (Decimal.isFinite_ofInt (by omega) (by omega)).isFinite
  rw [ofJson, unsigned, if_neg Bool.false_ne_true, toJson, floatJson, if_pos finite]

theorem toJson_ofJson (scalar : json.IsScalar) (carried : json.WellFormed)
    (narrow : ¬ json.IsWide) : (ofJson json).toJson = json := by
  cases json with
  | null => rfl
  | bool b => rfl
  | str s => rfl
  | arr items => exact scalar.elim
  | obj fields => exact scalar.elim
  | num number =>
      cases number with
      | float x =>
          rw [ofJson, toJson, floatJson, if_pos (Json.IsFinite.isFinite carried)]
      | int n =>
          have whole : Number.fitsWhole n = true := carried
          simp only [Number.fitsWhole, Bool.and_eq_true, decide_eq_true_eq] at whole
          rw [Json.IsWide] at narrow
          have signed : Number.fitsSigned n = true := by
            simp only [Number.fitsSigned, Bool.and_eq_true, decide_eq_true_eq]
            omega
          rw [ofJson, if_pos signed]
          rfl

/-- Exactly the wide numbers do not come back. -/
theorem toJson_ofJson_eq_iff (scalar : json.IsScalar) (carried : json.WellFormed) :
    (ofJson json).toJson = json ↔ ¬ json.IsWide := by
  refine ⟨fun same wide => ?_, toJson_ofJson scalar carried⟩
  match json, wide with
  | .num (.int n), wide =>
      rw [toJson_ofJson_wide carried wide] at same
      cases same

end Value

/-! ## Rows -/

/-- The fields of a row that the table has, in the order of its columns. -/
def Table.presentFields (table : Table) (row : Row) : List Json :=
  table.columns.filterMap fun column => Fields.find? column row

theorem Table.presentValues_eq (table : Table) (row : Row) :
    table.presentValues row = (table.presentFields row).map Value.ofJson := by
  rw [presentValues, presentFields, List.map_filterMap]

namespace Query

variable {query : Query}

/-- The fields of the rows that are stored, row after row. -/
def storedFields (query : Query) : List Json :=
  query.upserts.flatMap query.table.presentFields

/-- The parameters of an upsert are the values of the fields. -/
theorem exists_statements_storedFields (d : Dialect) (upsert : query.command = .upsert)
    (present : ∀ row ∈ query.upserts, query.table.presentColumns row ≠ []) :
    ∃ set, query.statements d .placeholders = .ok set ∧
      set.flatMap Statement.values = query.storedFields.map Value.ofJson := by
  have partition := UpsertRun.IsPartition.partition query.table query.upserts
  refine ⟨_, statements_eq_flatMap upsert fun run mem => partition.columns_ne_nil present mem, ?_⟩
  have values : ∀ run ∈ UpsertRun.partition query.table query.upserts,
      (run.statements d query.table).flatMap Statement.values =
        (run.rows.flatMap query.table.presentFields).map Value.ofJson := by
    intro run mem
    rw [UpsertRun.flatMap_values_statements, UpsertRun.values, List.map_flatMap]
    apply List.flatMap_congr
    intro row inRun
    rw [run.rowValues_eq query.table (partition.columns_eq run mem row inRun),
      Table.presentValues_eq]
  rw [← List.flatMap_def, List.flatMap_assoc, List.flatMap_congr values, ← List.map_flatMap,
    ← List.flatMap_assoc, partition.rows_eq, storedFields]

/-- A scalar comes back from its value exactly if it is not wide, and the parameters of an
upsert of scalars are the fields of the rows exactly if none of these is wide. -/
theorem carries_scalars_iff (d : Dialect) :
    (∀ json : Json, json.IsScalar → json.WellFormed →
      ((Value.ofJson json).toJson = json ↔ ¬ json.IsWide)) ∧
    ∀ query : Query, query.command = .upsert →
      (∀ row ∈ query.upserts, query.table.presentColumns row ≠ []) →
      (∀ json ∈ query.storedFields, json.IsScalar ∧ json.WellFormed) →
      ∃ set, query.statements d .placeholders = .ok set ∧
        ((set.flatMap Statement.values).map Value.toJson = query.storedFields ↔
          ∀ json ∈ query.storedFields, ¬ json.IsWide) := by
  refine ⟨fun json scalar carried => Value.toJson_ofJson_eq_iff scalar carried, ?_⟩
  intro query upsert present scalars
  obtain ⟨set, generated, values⟩ := exists_statements_storedFields d upsert present
  have each : query.storedFields.map (Value.toJson ∘ Value.ofJson) = query.storedFields.map id ↔
      ∀ json ∈ query.storedFields, (Value.ofJson json).toJson = json := List.map_inj_left
  rw [List.map_id] at each
  refine ⟨set, generated, ?_⟩
  rw [values, List.map_map, each]
  refine forall₂_congr fun json mem => ?_
  obtain ⟨scalar, carried⟩ := scalars json mem
  exact Value.toJson_ofJson_eq_iff scalar carried

/-- Two rows with scalars of every kind, the second with a number of views. -/
def viewedFilms (views : Int) : Query :=
  (ofTable (Table.ofColumns "films" ["id"] ["rating", "seen", "title", "views"])).upsert
    [[("id", .nat 7), ("rating", .num (.float 7.5)), ("seen", .bool true), ("title", .null)],
      [("id", .nat 9), ("title", .str "Topaz"), ("views", .int views)]]

theorem storedFields_viewedFilms (views : Int) :
    (viewedFilms views).storedFields = [.nat 7, .num (.float 7.5), .bool true, .null, .nat 9,
      .str "Topaz", .int views] :=
  rfl

theorem carries_scalars_viewedFilms :
    (Value.ofJson (.num (.float 7.5))).toJson = .num (.float 7.5) ∧
    (∃ set, (viewedFilms 9223372036854775807).statements .postgres .placeholders = .ok set ∧
      (set.flatMap Statement.values).map Value.toJson =
        (viewedFilms 9223372036854775807).storedFields) ∧
    ∃ set, (viewedFilms 9223372036854775808).statements .mysql .placeholders = .ok set ∧
      (set.flatMap Statement.values).map Value.toJson ≠
        (viewedFilms 9223372036854775808).storedFields := by
  have rating : Json.IsFinite 7.5 := trivial
  have scalars (views : Int) (whole : Number.fitsWhole views) :
      ∀ json ∈ (viewedFilms views).storedFields, json.IsScalar ∧ json.WellFormed := by
    have keys : Number.fitsWhole 7 ∧ Number.fitsWhole 9 := by decide
    rw [storedFields_viewedFilms]
    simp [Json.IsScalar, Json.WellFormed, Json.Carried, Json.nat, Json.int, rating, whole, keys]
  obtain ⟨single, rows⟩ := carries_scalars_iff .postgres
  refine ⟨(single (.num (.float 7.5)) trivial rating).mpr not_false, ?narrow, ?wide⟩
  case narrow =>
    obtain ⟨set, generated, carried⟩ :=
      rows (viewedFilms 9223372036854775807) rfl (by decide) (scalars _ (by decide))
    refine ⟨set, generated, carried.mpr ?_⟩
    rw [storedFields_viewedFilms]
    simp [Json.IsWide, Json.nat, Json.int]
  case wide =>
    obtain ⟨set, generated, carried⟩ :=
      (carries_scalars_iff .mysql).2 (viewedFilms 9223372036854775808) rfl (by decide)
        (scalars _ (by decide))
    refine ⟨set, generated, fun same => ?_⟩
    have narrow := carried.mp same
    rw [storedFields_viewedFilms] at narrow
    simp [Json.IsWide, Json.nat, Json.int] at narrow

/-- The largest number of 64 bits is read exactly, and bound as a floating point number. -/
theorem not_carries_views :
    (Mysql.ColumnType.ofName "bigint" true false).read (.int 18446744073709551615) =
      .int 18446744073709551615 ∧
    Value.ofJson (.int 18446744073709551615) = .float (Float.ofInt 18446744073709551615) ∧
    (Value.ofJson (.int 18446744073709551615)).toJson ≠ .int 18446744073709551615 := by
  have back := Value.toJson_ofJson_wide (n := 18446744073709551615) (by decide)
    (by rw [Json.IsWide]; decide)
  refine ⟨rfl, rfl, ?_⟩
  rw [Json.int, back]
  intro same
  cases same

end Query

end Polyquery
