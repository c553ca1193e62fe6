import Polyquery.Json.Basic

/-!
# State of a connection

What a check of a connection finds, and what can go wrong between this library
and a database.
-/

namespace Polyquery

/-- The outcome of a check of a connection. -/
inductive ConnectionStatus where
  | connected
  | authFailed
  | timedOut
  | failed (message : String)
deriving DecidableEq

namespace ConnectionStatus

def isConnected : ConnectionStatus → Bool
  | connected => true
  | _ => false

def display : ConnectionStatus → String
  | connected => "connected"
  | authFailed => "authentication failed"
  | timedOut => "timed out"
  | failed message => "failed: " ++ message

/-- The fields of a status in an answer. -/
def fields : ConnectionStatus → List (String × Json)
  | connected => [("status", .str "connected")]
  | authFailed => [("status", .str "auth_failed")]
  | timedOut => [("status", .str "timed_out")]
  | failed message => [("status", .str "failed"), ("message", .str message)]

/-- A status as a JSON object. -/
def toJson (status : ConnectionStatus) : Json :=
  .obj status.fields

end ConnectionStatus

/-- A failure between this library and a SQL database. -/
inductive DatabaseFailure where
  /-- The server refused with an SQL state. -/
  | refused (state : String) (shown : String)
  /-- No connection became free in time. -/
  | poolTimedOut
  /-- The server did not answer in time. -/
  | ioTimedOut
  /-- The pool of connections is closed. -/
  | poolClosed
  /-- A parameter has no form on the wire. -/
  | unencodable
  /-- There is no row where one is expected. -/
  | noRow
  /-- A cell is not of the kind that is expected. -/
  | undecodable
  /-- The address of the server is no URL. -/
  | invalidAddress (reason : String)
  /-- The connection needs encryption, which is not available. -/
  | noEncryption
  /-- The database engine reports a failure. -/
  | engine (shown : String)
deriving DecidableEq

namespace DatabaseFailure

def message : DatabaseFailure → String
  | refused _ shown => "error returned from database: " ++ shown
  | poolTimedOut => "pool timed out while waiting for an open connection"
  | ioTimedOut => "error communicating with database: timed out"
  | poolClosed => "attempted to acquire a connection on a closed pool"
  | unencodable => "error occurred while encoding a value"
  | noRow => "no rows returned by a query that expected to return at least one row"
  | undecodable => "error occurred while decoding a value"
  | invalidAddress reason => "error with configuration: " ++ reason
  | noEncryption =>
    "error occurred while attempting to establish a TLS connection: TLS upgrade required by " ++
      "connect options but SQLx was built without TLS support enabled"
  | engine shown => "error returned from database: " ++ shown

/-- How a failure counts when it occurs while connecting.  The SQL states of
class 28 mean that the login was not accepted. -/
def status : DatabaseFailure → ConnectionStatus
  | poolTimedOut | ioTimedOut => .timedOut
  | refused state shown =>
    if "28".toList.isPrefixOf state.toList then .authFailed
    else .failed (message (refused state shown))
  | other => .failed other.message

end DatabaseFailure

end Polyquery
