import Polyquery.Table

/-!
# Queries

A query selects from, stores into or deletes from one table.  It starts as a
selection of everything and is refined step by step; each step appends to what
is there.
-/

namespace Polyquery

/-- The direction of a sort. -/
inductive SortOrder where
  | asc
  | desc
deriving DecidableEq

namespace SortOrder

def name : SortOrder → String
  | asc => "asc"
  | desc => "desc"

/-- The order with a short or a long name. -/
def parse (name : String) : Result SortOrder :=
  if name = "asc" || name = "ascending" then .ok asc
  else if name = "desc" || name = "descending" then .ok desc
  else .error (.generation (.unknownOrder name))

/-- The operator with which SQL writes the order. -/
def operator : SortOrder → Operator
  | asc => .asc
  | desc => .desc

end SortOrder

/-- The command with a name. -/
def Command.parse (name : String) : Result Command :=
  match Command.ofName? name with
  | some command => .ok command
  | none => .error (.generation (.unknownCommand name))

/-- An expression to sort by. -/
structure SortKey where
  expr : Expr
  order : SortOrder

/-- A query against one table. -/
structure Query where
  table : Table
  command : Command
  /-- The selected expressions. -/
  selected : List Expr
  /-- The selected expressions that get a name. -/
  aliases : List (String × Expr)
  /-- The conditions, all of which have to hold. -/
  filters : List Expr
  sorts : List SortKey
  /-- The rows to store. -/
  upserts : List Row
  /-- The largest number of rows; zero means any number. -/
  take : Nat
  /-- The number of rows to leave out at the start. -/
  skip : Nat

namespace Query

/-- The selection of everything from a table. -/
def ofTable (table : Table) : Query where
  table := table
  command := .select
  selected := []
  aliases := []
  filters := []
  sorts := []
  upserts := []
  take := 0
  skip := 0

/-- Select more expressions. -/
def select (exprs : List Expr) (query : Query) : Query :=
  { query with command := .select, selected := query.selected ++ exprs }

/-- Select one more expression under a name. -/
def withAlias (name : String) (e : Expr) (query : Query) : Query :=
  { query with aliases := query.aliases ++ [(name, e)] }

/-- Add a condition. -/
def filter (e : Expr) (query : Query) : Query :=
  { query with filters := query.filters ++ [e] }

/-- Sort by one more expression. -/
def sort (e : Expr) (order : SortOrder) (query : Query) : Query :=
  { query with sorts := query.sorts ++ [⟨e, order⟩] }

def limit (count : Nat) (query : Query) : Query :=
  { query with take := count }

def offset (count : Nat) (query : Query) : Query :=
  { query with skip := count }

/-- Store more rows. -/
def upsert (rows : List Row) (query : Query) : Query :=
  { query with command := .upsert, upserts := query.upserts ++ rows }

/-- Delete what the conditions select. -/
def delete (query : Query) : Query :=
  { query with command := .delete }

/-- Whether all columns are selected because none is named. -/
def selectsAll (query : Query) : Bool :=
  query.command = .select && query.selected.isEmpty && query.aliases.isEmpty

end Query

end Polyquery
