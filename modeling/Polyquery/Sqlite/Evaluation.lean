import Polyquery.Sql.Truth
import Polyquery.Sqlite.Access.Path

/-!
# Running actions in a store

Conditions have three truth values: a row is taken if the condition is true, not
if it is false or unknown.  Rows come in the order in which they are found, and
sorting leaves those in that order that it does not tell apart.
-/

namespace Polyquery.Sqlite

open Sql (Term ColumnName Connector Item SortTerm Selection Action Truth and3 or3 not3)

/-! ### Values -/

/-- What the value of a term depends on. -/
structure Scope where
  params : List Cell
  lastId : Int
  row : StoredRow

/-- A truth value as a cell; the unknown one is null. -/
def ofTruth : Truth → Cell
  | some b => Cell.ofBool b
  | none => .null

/-- Compare two cells; unknown if one is null. -/
def comparison (holds : Ordering → Bool) : Cell → Cell → Cell
  | .null, _ | _, .null => .null
  | a, b => Cell.ofBool (holds (a.order b))

/-- Join two cells that have been converted for a comparison. -/
def joined (connector : Connector) (a b : Cell) : Cell :=
  match connector with
  | .or => ofTruth (or3 a.truth? b.truth?)
  | .and => ofTruth (and3 a.truth? b.truth?)
  | .eq => comparison (· == .eq) a b
  | .ne => comparison (· != .eq) a b
  | .is => Cell.ofBool (a.order b == .eq)
  | .isNot => Cell.ofBool (a.order b != .eq)
  | .lt => comparison (· == .lt) a b
  | .le => comparison (· != .gt) a b
  | .gt => comparison (· == .gt) a b
  | .ge => comparison (· != .lt) a b

/-- The value of a term. -/
def evaluate (scope : Scope) : Term Place → Cell
  | .name (.column position _) => StoredTable.cell scope.row position
  | .name .number => .int scope.row.id
  | .name (.text s) => .text s
  | .value v => Cell.ofValue v
  | .parameter n => (scope.params[n - 1]?).getD .null
  | .lastRowId => .int scope.lastId
  | .not operand => ofTruth (not3 (evaluate scope operand).truth?)
  | .join connector left right =>
    let a := evaluate scope left
    let b := evaluate scope right
    match connector with
    | .or | .and => joined connector a b
    | _ =>
      let convert := Affinity.comparing (affinity? left) (affinity? right)
      joined connector (convert a) (convert b)

/-- Whether a condition holds, if there is one. -/
def holds (scope : Scope) : Option (Term Place) → Bool
  | none => true
  | some condition => (evaluate scope condition).truth? = some true

/-! ### Actions -/

/-- What an action gives and leaves behind. -/
structure Outcome where
  rows : List Row
  store : Store

/-- A selected expression with the name of its column. -/
structure Projected where
  name : String
  term : Term Place

/-- The name of the column of a selected expression: its alias, the name under
which the column was created, or the expression as written. -/
def itemName (table : Option StoredTable) (item : Item) (term : Term Place) : String :=
  match item.label, term with
  | some label, _ => label
  | none, .name (.column position _) =>
    ((table.bind fun t => t.columns[position]?).map Column.name).getD item.text
  | none, .name .number =>
    ((table.bind fun t => t.numbering.bind fun i => t.columns[i]?).map Column.name).getD "rowid"
  | none, _ => item.text

/-- All columns of a table. -/
def allColumns (table : StoredTable) : List Projected :=
  table.columns.zipIdx.map fun (column, position) =>
    ⟨column.name, .name (.column position column.affinity)⟩

/-- The selected expressions. -/
def project (table : Option StoredTable) : Option (List Item) → Except Fault (List Projected)
  | some items => items.mapM fun item => do
    let term ← resolve table item.term
    return ⟨itemName table item term, term⟩
  | none =>
    match table with
    | some t => .ok (allColumns t)
    | none => .error .syntaxError

/-- The expression by which rows are ordered.  A name that stands alone is first
looked up among the aliases. -/
def resolveSort (table : Option StoredTable) (items : List Item) (sort : SortTerm) :
    Except Fault (Term Place × Bool) := do
  let aliased : Option Item := match sort.term with
    | .name ⟨[], _, name⟩ =>
      items.find? fun item => (item.label.map (sameName name)).getD false
    | _ => none
  let term ← resolve table ((aliased.map Item.term).getD sort.term)
  return (term, sort.descending)

/-- The order of two rows by several expressions. -/
def sortOrder (scope : StoredRow → Scope) (sorts : List (Term Place × Bool))
    (a b : StoredRow) : Ordering :=
  match sorts with
  | [] => .eq
  | (term, descending) :: rest =>
    let order := (evaluate (scope a) term).order (evaluate (scope b) term)
    (if descending then order.swap else order).then (sortOrder scope rest a b)

/-- A number of rows has to fit 64 bits with a sign. -/
def checkCount : Option Nat → Except Fault Unit
  | some n => if n < 9223372036854775808 then .ok () else .error .mismatch
  | none => .ok ()

/-- The rows of a page. -/
def page {α : Type} (take skip : Option Nat) (rows : List α) : List α :=
  let rest := rows.drop (skip.getD 0)
  match take with
  | some n => rest.take n
  | none => rest

/-- The positions of the columns of which a term needs the cells. -/
def neededColumns (table : StoredTable) (t : Term Place) : List Nat :=
  t.names.filterMap fun place =>
    match place with
    | .column position _ => if table.numbering = some position then none else some position
    | _ => none

/-- What a selection asks of its table. -/
def demandOf (table : StoredTable) (selection : Selection) (items : List Projected)
    (condition : Option (Term Place)) (sorts : List (Term Place × Bool)) : Access.Demand where
  used := (items.map Projected.term ++ condition.toList ++ sorts.map Prod.fst).flatMap
    (neededColumns table)
  sorts := sorts.map fun (term, descending) =>
    match term with
    | .name place => (Access.spotOf? table place, descending)
    | _ => (none, descending)
  width := items.length
  limit := (selection.take.filter (· < 2147483648)).map Access.Estimate.ofNat

def Store.select (store : Store) (params : List Cell) (selection : Selection) :
    Except Fault (List Row) := do
  let table ← selection.table.mapM store.table
  let items ← project table selection.items
  let condition ← selection.condition.mapM (resolve table)
  let sorts ← selection.sorts.mapM (resolveSort table (selection.items.getD []))
  checkCount selection.take
  checkCount selection.skip
  let scope (row : StoredRow) : Scope := ⟨params, store.lastId, row⟩
  let rows := match table with
    | some t =>
      (Access.Path.ofCondition t (demandOf t selection items condition sorts) condition).rows t
        fun row condition => holds (scope row) (some condition)
    | none => [⟨0, []⟩]
  let found := rows.filter fun row => holds (scope row) condition
  let sorted := found.mergeSort fun a b => sortOrder scope sorts a b != .gt
  return (page selection.take selection.skip sorted).map fun row =>
    Fields.ofList (items.map fun item => (item.name, (evaluate (scope row) item.term).toJson))

def Store.delete (store : Store) (params : List Cell) (name : String)
    (condition : Option (Term ColumnName)) : Except Fault Store := do
  let table ← store.table name
  let condition ← condition.mapM (resolve (some table))
  let kept := table.rows.filter fun row => !holds ⟨params, store.lastId, row⟩ condition
  return store.put { table with rows := kept }

/-- Where the columns of a statement go: the positions, and none for the number
of the row. -/
def targets (table : StoredTable) (columns : List String) : Except Fault (List (Option Nat)) :=
  columns.mapM fun name =>
    match table.position? name with
    | some position => .ok (some position)
    | none =>
      if StoredTable.numberNames.any (sameName name) then .ok none
      else .error (.noColumn name)

/-- Store one row. -/
def Store.replaceRow (store : Store) (name : String) (targets : List (Option Nat))
    (cells : List Cell) : Except Fault Store := do
  let table ← store.table name
  let given := targets.zip cells
  let number := (given.lookup none <|> table.numbering.bind fun i => given.lookup (some i))
  let (table, id) ← table.replaceRow (fun i => given.lookup (some i)) (number.getD .null)
  return { store.put table with lastId := id }

/-- Store rows.  If one cannot be stored, none is. -/
def Store.replace (store : Store) (params : List Cell) (name : String) (columns : List String)
    (rows : List (List (Term ColumnName))) : Except Fault Store := do
  let table ← store.table name
  let targets ← targets table columns
  let rows ← rows.mapM fun row => do
    if row.length ≠ columns.length then throw .syntaxError
    row.mapM (resolve none)
  rows.foldlM (fun store row =>
    store.replaceRow name targets (row.map (evaluate ⟨params, store.lastId, ⟨0, []⟩⟩))) store

/-- Run an action. -/
def Store.perform (store : Store) (params : List Cell) : Action → Except Fault Outcome
  | .select selection => do return ⟨← store.select params selection, store⟩
  | .delete table condition => do return ⟨[], ← store.delete params table condition⟩
  | .replace table columns rows => do return ⟨[], ← store.replace params table columns rows⟩

/-- Run a statement. -/
def Store.run (store : Store) (text : String) (params : List Cell) : Except Fault Outcome :=
  match Action.ofText? text with
  | some action => store.perform params action
  | none => .error .syntaxError

end Polyquery.Sqlite
