import Mathlib
import Polyquery.Table

/-!
# Document ids and delimiters

The delimiter of a table is only seen in the ids of rows that carry two or more
parts of the key, and there it is always seen: two delimiters between the same
parts give two ids.
-/

namespace Polyquery

theorem length_intercalate_cons (delimiter first : String) (rest : List String) :
    (delimiter.intercalate (first :: rest)).length =
      first.length + rest.length * delimiter.length + (rest.map String.length).sum := by
  induction rest generalizing first with
  | nil => simp
  | cons next rest ih =>
      rw [String.intercalate_cons_cons, String.length_append, String.length_append, ih]
      simp only [List.length_cons, List.map_cons, List.sum_cons, Nat.add_mul]
      omega

/-- Between at least two parts a delimiter can be told from every other. -/
theorem intercalate_injective {delimiter other first second : String} {rest : List String}
    (same : delimiter.intercalate (first :: second :: rest) =
      other.intercalate (first :: second :: rest)) : delimiter = other := by
  have sameLength := congrArg String.length same
  rw [length_intercalate_cons, length_intercalate_cons] at sameLength
  have widths : delimiter.toList.length = other.toList.length := by
    have counted : (second :: rest).length * delimiter.length =
        (second :: rest).length * other.length := by
      omega
    rw [String.length_toList, String.length_toList]
    exact Nat.eq_of_mul_eq_mul_left (Nat.succ_pos _) counted
  rw [String.intercalate_cons_cons, String.intercalate_cons_cons, String.append_assoc,
    String.append_assoc] at same
  have sameTexts := congrArg String.toList same
  simp only [String.toList_append] at sameTexts
  have sameTails := List.append_cancel_left sameTexts
  exact String.toList_inj.1 (List.append_inj sameTails widths).1

namespace Fields

variable {α : Type}

/-- A collection in which every one of the given names has the same value. -/
def constant (names : List String) (value : α) : Fields α :=
  ofList (names.map fun name => (name, value))

theorem find?_constant {names : List String} {name : String} (value : α) (mem : name ∈ names) :
    find? name (constant names value) = some value := by
  rw [constant, find?_ofList_map fun _ => value, if_pos mem]

end Fields

namespace Table

/-- Two tables with the same keys find the same key parts. -/
theorem keyParts_congr {table other : Table} (sameKeys : table.primaryKeys = other.primaryKeys)
    (row : Row) : table.keyParts row = other.keyParts row := by
  rw [keyParts, keyParts, sameKeys]

theorem length_keyParts_le (table : Table) (row : Row) :
    (table.keyParts row).length ≤ table.primaryKeys.length :=
  List.length_filterMap_le ..

/-- The delimiter is not seen in the id of a row with at most one key part. -/
theorem documentId?_congr {table other : Table} (sameKeys : table.primaryKeys = other.primaryKeys)
    {row : Row}
    (unseen : (table.keyParts row).length ≤ 1 ∨ table.delimiter = other.delimiter) :
    table.documentId? row = other.documentId? row := by
  have sameParts := keyParts_congr sameKeys row
  simp only [documentId?, ← sameParts]
  rcases unseen with few | sameDelimiter
  · match table.keyParts row, few with
    | [], _ => rfl
    | [part], _ => simp
    | _ :: _ :: _, few => simp at few
  · rw [sameDelimiter]

/-- The row that carries an empty text for every key. -/
def blankRow (table : Table) : Row :=
  Fields.constant table.primaryKeys (.str "")

theorem keyParts_blankRow (table : Table) :
    table.keyParts table.blankRow = table.primaryKeys.map fun _ => "" := by
  rw [keyParts, List.filterMap_eq_map_iff_forall_eq_some]
  intro key mem
  have found : Fields.find? key table.blankRow = some (Json.str "") :=
    Fields.find?_constant _ mem
  simp [found, keyText]

theorem exists_documentId?_blankRow (table : Table) (keyed : 0 < table.primaryKeys.length) :
    ∃ id, table.documentId? table.blankRow = some id := by
  simp only [documentId?, keyParts_blankRow]
  match table.primaryKeys, keyed with
  | _ :: _, _ => exact ⟨_, rfl⟩

/-- Two tables with the same keys, at least two, give the blank row the same id
only if their delimiters are the same. -/
theorem delimiter_eq_of_documentId?_blankRow {table other : Table}
    (sameKeys : table.primaryKeys = other.primaryKeys) (several : 2 ≤ table.primaryKeys.length)
    (sameId : table.documentId? table.blankRow = other.documentId? table.blankRow) :
    table.delimiter = other.delimiter := by
  have sameParts := keyParts_congr sameKeys table.blankRow
  simp only [documentId?, ← sameParts, keyParts_blankRow] at sameId
  match keys : table.primaryKeys, several with
  | first :: second :: rest, _ =>
    rw [keys] at sameId
    exact intercalate_injective (Option.some.inj sameId)

end Table

end Polyquery
