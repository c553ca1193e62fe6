import Polyquery.Sqlite.Store

/-!
# Names in a store

Names are resolved before any row is looked at.  A name leads to a column of the
table, to the number of the row, or, if it is unknown and stands in double
quotes, it is a string.
-/

namespace Polyquery.Sqlite

open Sql (Term ColumnName)

/-- What a name stands for. -/
inductive Place where
  | column (position : Nat) (affinity : Affinity)
  /-- The number of the row. -/
  | number
  /-- An unknown name in double quotes is a string. -/
  | text (s : String)

/-- The name of the only database of a store. -/
def databaseName : String := "main"

/-- Whether the qualifiers of a name lead to a table. -/
def leadsTo (table : StoredTable) : List String → Bool
  | [] => true
  | [name] => sameName name table.name
  | [database, name] => sameName database databaseName && sameName name table.name
  | _ => false

/-- What a name stands for among the columns of a table. -/
def StoredTable.place? (table : StoredTable) (name : ColumnName) : Option Place :=
  if leadsTo table name.qualifiers then
    match table.position? name.name with
    | some position =>
      (table.columns[position]?).map fun column => .column position column.affinity
    | none =>
      if StoredTable.numberNames.any (sameName name.name) then some .number else none
  else none

/-- What a name stands for; a fault if it is unknown. -/
def resolveName (table : Option StoredTable) (name : ColumnName) : Except Fault Place :=
  match table.bind fun t => t.place? name with
  | some place => .ok place
  | none =>
    if name.qualifiers.isEmpty && name.mark = '"' then .ok (.text name.name)
    else .error (.noColumn (".".intercalate (name.qualifiers ++ [name.name])))

/-- Resolve the names of a term. -/
def resolve (table : Option StoredTable) (t : Term ColumnName) : Except Fault (Term Place) :=
  t.mapNames (resolveName table)

/-- The affinity of a term: only columns have one. -/
def affinity? : Term Place → Option Affinity
  | .name (.column _ affinity) => some affinity
  | .name .number => some .integer
  | _ => none

end Polyquery.Sqlite
