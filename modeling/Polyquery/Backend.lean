/-!
# Backends

The kinds of database that a query can be written for, and the three dialects
of SQL among them.
-/

namespace Polyquery

/-- A dialect of SQL. -/
inductive Dialect where
  | mysql
  | sqlite
  | postgres
deriving DecidableEq

/-- A kind of database. -/
inductive Backend where
  | mysql
  | sqlite
  | postgres
  | elastic
deriving DecidableEq

namespace Backend

/-- The name on the command line, in documents and in answers. -/
def name : Backend → String
  | mysql => "mysql"
  | sqlite => "sqlite"
  | postgres => "postgres"
  | elastic => "elastic"

/-- The name in messages. -/
def title : Backend → String
  | mysql => "MySQL"
  | sqlite => "SQLite"
  | postgres => "PostgreSQL"
  | elastic => "Elasticsearch"

/-- All kinds, in the order in which they are listed. -/
def all : List Backend :=
  [mysql, sqlite, postgres, elastic]

/-- The kind with a name; `ignoreCase` folds ASCII letters. -/
def ofName? (name : String) (ignoreCase : Bool) : Option Backend :=
  let given := if ignoreCase then String.ofList (name.toList.map Char.toLower) else name
  all.find? fun backend => backend.name = given

/-- The dialect of a SQL database. -/
def dialect? : Backend → Option Dialect
  | mysql => some .mysql
  | sqlite => some .sqlite
  | postgres => some .postgres
  | elastic => none

end Backend

/-- The kind of database that a dialect belongs to. -/
def Dialect.backend : Dialect → Backend
  | .mysql => .mysql
  | .sqlite => .sqlite
  | .postgres => .postgres

/-- How the values of a query appear in its statements. -/
inductive Mode where
  /-- As parameters, with the values beside the text. -/
  | placeholders
  /-- As literals in the text. -/
  | inline
deriving DecidableEq

end Polyquery
