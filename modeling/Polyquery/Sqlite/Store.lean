import Polyquery.Sql.Action
import Polyquery.Sqlite.Column
import Polyquery.Sqlite.Key

/-!
# Stores of SQLite

A store holds tables, a table holds numbered rows in the order of their numbers.
A primary key of one whole-number column is the number itself.  Storing a row
first removes the rows that have the same number or the same key; a key with a
null is the same as no other.
-/

namespace Polyquery.Sqlite

/-- Why the engine refuses a statement. -/
inductive Fault where
  | syntaxError
  | noTable (name : String)
  | noColumn (name : String)
  | tableExists (name : String)
  | reservedName (name : String)
  | invalidTable
  /-- A value is not of the kind that its place demands. -/
  | mismatch
  | nullRefused
  /-- There is no number left for a row. -/
  | full
  | cannotOpen
  | notADatabase
deriving DecidableEq

def Fault.message : Fault → String
  | syntaxError => "(code: 1) syntax error"
  | noTable name => "(code: 1) no such table: " ++ name
  | noColumn name => "(code: 1) no such column: " ++ name
  | tableExists name => "(code: 1) table \"" ++ name ++ "\" already exists"
  | reservedName name => "(code: 1) object name reserved for internal use: " ++ name
  | invalidTable => "(code: 1) invalid table definition"
  | mismatch => "(code: 20) datatype mismatch"
  | nullRefused => "(code: 1299) NOT NULL constraint failed"
  | full => "(code: 13) database or disk is full"
  | cannotOpen => "(code: 14) unable to open database file"
  | notADatabase => "(code: 26) file is not a database"

/-- A row with its number.  There is a cell for every column of the table. -/
structure StoredRow where
  id : Int
  cells : List Cell
deriving DecidableEq

/-- A table with its rows, strictly increasing by number. -/
structure StoredTable where
  name : String
  columns : List Column
  /-- The position of the column that is the number of a row. -/
  numbering : Option Nat
  /-- The other keys in the order in which they are declared. -/
  keys : List Key
  /-- Numbers are never used again. -/
  monotone : Bool
  /-- The largest number that was ever used. -/
  largest : Int
  rows : List StoredRow

/-- The tables, and the number of the row that was stored last. -/
structure Store where
  /-- Whether there are tables at all, and not a file of another kind. -/
  readable : Bool
  tables : List StoredTable
  lastId : Int

/-- Whether two names are the same: the case of ASCII letters does not
matter. -/
def sameName (a b : String) : Bool :=
  a.toLower = b.toLower

namespace StoredTable

/-- The position of a column. -/
def position? (table : StoredTable) (name : String) : Option Nat :=
  table.columns.findIdx? fun column => sameName column.name name

/-- The names that stand for the number of a row unless a column has them. -/
def numberNames : List String :=
  ["rowid", "oid", "_rowid_"]

/-- The cell of a row at a position. -/
def cell (row : StoredRow) (position : Nat) : Cell :=
  row.cells.getD position .null

/-! ### Creation -/

/-- The primary key: the columns of the constraint of the table, or the column
that is declared as the key. -/
def primaryKey? (columns : List Column) (key : List String) :
    Except Fault (List Nat) := do
  let own := (columns.zipIdx.filter fun (column, _) => column.primary).map Prod.snd
  let named ← key.mapM fun name =>
    match columns.findIdx? fun column => sameName column.name name with
    | some position => .ok position
    | none => .error (.noColumn name)
  match own, named with
  | own, [] => if 1 < own.length then .error .invalidTable else .ok own
  | [], named => .ok named
  | _, _ => .error .invalidTable

/-- Whether no two columns have the same name. -/
def distinctNames : List Column → Bool
  | [] => true
  | column :: rest => rest.all (fun other => !sameName column.name other.name) && distinctNames rest

/-- The keys that columns declare for themselves, and after them the primary key
of the table, unless a column declares it. -/
def uniqueKeys (columns : List Column) (primary : List Nat) : List Key :=
  let own := columns.zipIdx.flatMap fun (column, position) =>
    (if column.primary && primary = [position] then
      [Key.mk [⟨position, column.descending⟩] true] else []) ++
    (if column.unique then [Key.mk [⟨position, false⟩] false] else [])
  let named := if primary.isEmpty then []
    else [Key.mk (primary.map fun position => ⟨position, false⟩) true]
  (own ++ named).foldl (fun keys key => key.insert keys) []

/-- A new table.  The key is the constraint that follows the columns, empty if
there is none. -/
def create (name : String) (columns : List Column) (key : List String) :
    Except Fault StoredTable := do
  if columns.isEmpty then throw .syntaxError
  if !distinctNames columns then throw .invalidTable
  let primary ← primaryKey? columns key
  let numbering := match primary with
    | [position] =>
      if (columns[position]?.map Column.numbersRows).getD false then some position else none
    | _ => none
  let monotone := columns.any Column.monotone
  if monotone && numbering.isNone then throw .invalidTable
  let keys := if numbering.isSome then uniqueKeys columns [] else uniqueKeys columns primary
  return ⟨name, columns, numbering, keys, monotone, 0, []⟩

/-! ### Storing -/

/-- The largest number of a row; zero if there is none. -/
def largestNumber (table : StoredTable) : Int :=
  match table.rows.getLast? with
  | some row => row.id
  | none => 0

/-- The number of a row that brings none of its own. -/
def nextNumber (table : StoredTable) : Except Fault Int :=
  let used := match table.rows with
    | [] => 0
    | _ => table.largestNumber
  let next := (if table.monotone then max used table.largest else used) + 1
  if Number.fitsSigned next then .ok next else .error .full

/-- The number that a cell brings; null brings none. -/
def numberOf (table : StoredTable) : Cell → Except Fault Int
  | .null => table.nextNumber
  | cell =>
    match Affinity.integer.store cell with
    | .int n => .ok n
    | _ => .error .mismatch

/-- The parts of a key of a row; none if one of them is null. -/
def keyOf? (row : StoredRow) (key : Key) : Option (List Cell) :=
  key.positions.mapM fun position =>
    match cell row position with
    | .null => none
    | part => some part

/-- Whether two rows cannot both be stored. -/
def conflicts (table : StoredTable) (row other : StoredRow) : Bool :=
  row.id = other.id ||
    table.keys.any fun key =>
      match keyOf? row key, keyOf? other key with
      | some parts, some others =>
        (parts.zip others).all fun (a, b) => (a.order b) == Ordering.eq
      | _, _ => false

/-- Put a row at its place. -/
def insertRow (row : StoredRow) : List StoredRow → List StoredRow
  | [] => [row]
  | other :: rest =>
    if row.id < other.id then row :: other :: rest else other :: insertRow row rest

/-- What is stored in a column.  Where null is refused, it is replaced by the
standard value. -/
def admitted (column : Column) (given : Option Cell) : Except Fault Cell :=
  let stored := column.affinity.store (given.getD column.standard)
  if column.required && stored = .null then
    if column.standard = .null then .error .nullRefused
    else .ok (column.affinity.store column.standard)
  else .ok stored

/-- Store a row in place of those that conflict with it.  `given` are the cells
by position, `number` is what is given for the number of the row. -/
def replaceRow (table : StoredTable) (given : Nat → Option Cell) (number : Cell) :
    Except Fault (StoredTable × Int) := do
  let id ← table.numberOf number
  let cells ← table.columns.zipIdx.mapM fun (column, position) =>
    if table.numbering = some position then .ok (.int id) else admitted column (given position)
  let row : StoredRow := ⟨id, cells⟩
  let kept := table.rows.filter fun other => !table.conflicts row other
  return ({ table with rows := insertRow row kept, largest := max table.largest id }, id)

end StoredTable

namespace Store

def empty : Store := ⟨true, [], 0⟩

/-- A file of another kind. -/
def unreadable : Store := ⟨false, [], 0⟩

/-- The tables; a fault if the file cannot be read. -/
def allTables (store : Store) : Except Fault (List StoredTable) :=
  if store.readable then .ok store.tables else .error .notADatabase

/-- The table with a name. -/
def table? (store : Store) (name : String) : Option StoredTable :=
  store.tables.find? fun table => sameName table.name name

/-- The table with a name; a fault if there is none. -/
def table (store : Store) (name : String) : Except Fault StoredTable := do
  let tables ← store.allTables
  match tables.find? fun table => sameName table.name name with
  | some table => .ok table
  | none => .error (.noTable name)

/-- Put a table in the place of the one with its name. -/
def put (store : Store) (table : StoredTable) : Store :=
  { store with
    tables := store.tables.map fun other =>
      if sameName other.name table.name then table else other }

/-- The beginning of the names that are reserved. -/
def reservedStart : String := "sqlite_"

/-- Create a table. -/
def create (store : Store) (name : String) (columns : List Column) (key : List String) :
    Except Fault Store := do
  if reservedStart.toList.isPrefixOf name.toLower.toList then throw (.reservedName name)
  if (store.table? name).isSome then throw (.tableExists name)
  return { store with tables := store.tables ++ [← StoredTable.create name columns key] }

/-- Whether a table is left out of schemas.  The underscore of the reserved
beginning stands for any character. -/
def isHidden (name : String) : Bool :=
  6 < name.length && "sqlite".toList.isPrefixOf name.toLower.toList

end Store

end Polyquery.Sqlite
