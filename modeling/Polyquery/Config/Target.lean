import Polyquery.Config.Server
import Polyquery.Text.Occurs

/-!
# Where a database is

A target names a database and how to reach it.  It is written as an address: the
scheme decides about the kind of database, and an address without a scheme is the
path of a file.
-/

namespace Polyquery

/-- A database to connect to. -/
inductive Target where
  | postgres (server : ServerSettings)
  | mysql (server : ServerSettings)
  /-- A SQLite file. -/
  | file (path : String)
  /-- A SQLite database that is gone at the end. -/
  | memory
  /-- An Elasticsearch cluster. -/
  | cluster (url : String)
deriving DecidableEq

namespace Target

def backend : Target → Backend
  | postgres _ => .postgres
  | mysql _ => .mysql
  | file _ | memory => .sqlite
  | cluster _ => .elastic

/-- The rest of a text after its beginning. -/
def after? (start text : String) : Option String :=
  if start.toList.isPrefixOf text.toList then
    some (String.ofList (text.toList.drop start.length))
  else none

/-- A text without the slashes at its end. -/
def withoutSlashes (text : String) : String :=
  String.ofList (text.toList.reverse.dropWhile (· = '/')).reverse

/-- The target that an address names. -/
def ofAddress (address : String) : Result Target :=
  let begins (start : String) : Bool := (after? start address).isSome
  if address = ":memory:" then .ok .memory
  else if begins "postgres://" || begins "postgresql://" then
    .ok (.postgres (.ofAddress address))
  else if begins "mysql://" then .ok (.mysql (.ofAddress address))
  else match after? "sqlite://" address with
    | some path => if path.isEmpty then .error (.config .pathRequired) else .ok (.file path)
    | none =>
      if begins "http://" || begins "https://" then .ok (.cluster (withoutSlashes address))
      else if Text.occurs "://".toList address.toList then
        .error (.config (.unsupportedUrl address))
      else .ok (.file address)

/-- The variables of the environment that name a database; the first that is set
counts. -/
def variableNames : List String :=
  ["TASTY_DATABASE_URL", "DATABASE_URL"]

/-- The database when nothing names one. -/
def default : Target :=
  .file "./tasty.sqlite"

end Target

end Polyquery
