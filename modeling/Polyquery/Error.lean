import Polyquery.Connection
import Polyquery.Backend

/-!
# Errors

One constructor for every cause, one function for the wording.  The constructors
of `Error` are the kinds of failure that callers tell apart.
-/

namespace Polyquery

/-- Why a query cannot be written for a backend. -/
inductive GenerationError where
  /-- There is no command with this name. -/
  | unknownCommand (name : String)
  /-- There is no sort order with this name. -/
  | unknownOrder (name : String)
  /-- A symbol has more or fewer operands than its placement asks for. -/
  | arity (symbol : String) (expected found : Nat)
  /-- Upserts are written run by run, not as one statement. -/
  | upsertIsPerRun
  /-- A row to store has no column of the table. -/
  | emptyRow (table : String)
  | aliasesUnsupported
  | noColumnName (shown : String)
  | noTableName (shown : String)
  | otherTable (shown table : String)
  | notAnOperator (shown : String)
  | notALiteral (shown : String)
  | unsupportedFilter (shown : String)
  /-- A delete by example whose example has no column of the table. -/
  | noFilterColumns (table : String)
  /-- A document cannot be addressed without a key. -/
  | keyRequired (action table : String)
  /-- A request to search holds a document instead. -/
  | carriesDocument (command : String)
  /-- A request to store documents holds a search instead. -/
  | carriesSearch
  /-- A list of conditions is empty. -/
  | emptyConditions (form : String)
  /-- The handler of a transaction gives up. -/
  | aborted (message : String)
deriving DecidableEq

def GenerationError.message : GenerationError → String
  | unknownCommand name => "unknown query command: " ++ name
  | unknownOrder name => "unrecognized sort order: " ++ name
  | arity symbol expected found =>
    "node " ++ symbol ++ " expects " ++ toString expected ++ " children, found " ++ toString found
  | upsertIsPerRun => "upsert queries are rendered per run"
  | emptyRow table => "upsert row has no columns of table " ++ table
  | aliasesUnsupported => "aliases are not supported by Elasticsearch"
  | noColumnName shown => "could not find column name in expression " ++ shown
  | noTableName shown => "could not find table name in expression " ++ shown
  | otherTable shown table => "expression " ++ shown ++ " refers to a table other than " ++ table
  | notAnOperator shown => "filtering on non-operator expression " ++ shown
  | notALiteral shown => "right-hand side of " ++ shown ++ " must be a literal"
  | unsupportedFilter shown => "filtering on unsupported expression " ++ shown
  | noFilterColumns table => "delete filter has no columns of table " ++ table
  | keyRequired action table => action ++ " requires primary key values for table " ++ table
  | carriesDocument command => command ++ " envelope carries a document"
  | carriesSearch => "upsert envelope carries a search request"
  | emptyConditions form => "empty '" ++ form ++ "' filter"
  | aborted message => message

/-- Why a transaction cannot be used. -/
inductive TransactionError where
  /-- No open transaction has this handle. -/
  | unknownHandle (handle : Nat)
  /-- A step of a transaction failed on purpose. -/
  | stepFailed (step : String)
deriving DecidableEq

def TransactionError.message : TransactionError → String
  | unknownHandle handle => "unknown transaction handle #" ++ toString handle
  | stepFailed step => step ++ " failed"

/-- The name of the configuration file. -/
def configFileName : String := ".tasty.json"

/-- Why a configuration or a query document cannot be used. -/
inductive ConfigError where
  | hostRequired
  | databaseRequired
  | invalidHost (scheme host : String)
  | pathRequired
  | unsupportedUrl (url : String)
  /-- The address of a cluster is no URL, or one without a place for paths. -/
  | invalidClusterUrl (url : String) (reason : Option String)
  | fileNotFound (help : String)
  | fileUnreadable (reason : String)
  | fileInvalid
  | invalidDocument (path : String)
deriving DecidableEq

def ConfigError.message : ConfigError → String
  | hostRequired => "host is required when no connection_string is given"
  | databaseRequired => "database is required when no connection_string is given"
  | invalidHost scheme host => "Invalid " ++ scheme ++ " host '" ++ host ++ "'"
  | pathRequired => "sqlite:// URL is missing a path"
  | unsupportedUrl url => "Unsupported database URL: " ++ url
  | invalidClusterUrl url none => "Invalid Elasticsearch URL '" ++ url ++ "'"
  | invalidClusterUrl url (some reason) =>
    "Invalid Elasticsearch URL '" ++ url ++ "': " ++ reason
  | fileNotFound help => "configuration file not found: " ++ configFileName ++ "\n\n" ++ help
  | fileUnreadable reason => "failed to read " ++ configFileName ++ ": " ++ reason
  | fileInvalid => "invalid JSON in " ++ configFileName
  | invalidDocument path => "invalid query document " ++ path

/-- Why a file cannot be read. -/
inductive FileError where
  | notFound
  | isDirectory
  | notText
deriving DecidableEq

def FileError.message : FileError → String
  | notFound => "No such file or directory (os error 2)"
  | isDirectory => "Is a directory (os error 21)"
  | notText => "stream did not contain valid UTF-8"

/-- Everything that can go wrong. -/
inductive Error where
  | generation (cause : GenerationError)
  | unsupported (operation backend : String)
  | transaction (cause : TransactionError)
  | connection (status : ConnectionStatus)
  | config (cause : ConfigError)
  | unknownColumn (column table : String)
  /-- A cluster answered with a status that is no success. -/
  | elastic (status : Nat) (body : String)
  | database (cause : DatabaseFailure)
  /-- A request got no answer. -/
  | http (shown : String)
  /-- An answer is not JSON. -/
  | json
  | io (cause : FileError)
  /-- There is no command of the command line with this name. -/
  | unknownTask (name : String)
deriving DecidableEq

def Error.message : Error → String
  | generation cause => "Query generation failed: " ++ cause.message
  | unsupported operation backend =>
    operation ++ " is not supported by the " ++ backend ++ " backend"
  | transaction cause => "Transaction error: " ++ cause.message
  | connection status => "Connection failed: " ++ status.display
  | config cause => "Invalid configuration: " ++ cause.message
  | unknownColumn column table => "Unknown column '" ++ column ++ "' on table '" ++ table ++ "'"
  | elastic status body =>
    "Elasticsearch request failed with status " ++ toString status ++ ": " ++ body
  | database cause => "Database error: " ++ cause.message
  | http shown => "HTTP error: " ++ shown
  | json => "JSON error"
  | io cause => "IO error: " ++ cause.message
  | unknownTask name => "Unknown command: " ++ name

/-- A result or the reason why there is none. -/
abbrev Result (α : Type) := Except Error α

end Polyquery
