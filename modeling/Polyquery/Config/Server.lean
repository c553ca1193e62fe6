import Polyquery.Backend
import Polyquery.Error
import Polyquery.Json.Record
import Polyquery.Url.Reader

/-!
# Settings of a SQL server

The address of a server is either given as a whole, and then taken as it is, or
put together from host, port, user, password and database.
-/

namespace Polyquery

open Json (Source)
open Json.Source (Reader)

/-- How to reach a SQL server.  Port zero stands for the usual port. -/
structure ServerSettings where
  address : Option String := none
  host : Option String := none
  user : Option String := none
  database : Option String := none
  port : Nat := 0
  password : Option String := none
  encrypted : Bool := false
deriving DecidableEq

namespace ServerSettings

def optionalText (depth : Nat) : Option Source → Option (Option String) :=
  Source.fieldOr none (Source.nullable Source.text) depth

def reader : Reader ServerSettings :=
  Source.record ["connection_string", "host", "user", "database", "port", "password", "ssl"]
    fun depth fields => do
      match fields with
      | [address, host, user, database, port, password, encrypted] =>
        some {
          address := ← optionalText depth address
          host := ← optionalText depth host
          user := ← optionalText depth user
          database := ← optionalText depth database
          port := ← Source.fieldOr 0 (Source.natUpTo 65535) depth port
          password := ← optionalText depth password
          encrypted := ← Source.fieldOr false Source.truth depth encrypted }
      | _ => none

/-- The settings that a value describes. -/
def ofJson? (value : Json) : Option ServerSettings :=
  reader Json.depthLimit (Source.ofJson value)

/-- The settings that consist of a whole address. -/
def ofAddress (address : String) : ServerSettings :=
  { address := some address }

def nullableText : Option String → Json
  | some text => .str text
  | none => .null

/-- The fields of settings in a file. -/
def fields (settings : ServerSettings) : List (String × Json) :=
  [("connection_string", nullableText settings.address), ("host", nullableText settings.host),
    ("user", nullableText settings.user), ("database", nullableText settings.database),
    ("port", .nat settings.port), ("password", nullableText settings.password),
    ("ssl", .bool settings.encrypted)]

/-- The scheme of addresses, the usual port, and the parameter that asks for an
encrypted connection. -/
structure Protocol where
  scheme : String
  usualPort : Nat
  encryption : String × String

def Protocol.postgres : Protocol := ⟨"postgres", 5432, ("sslmode", "require")⟩

def Protocol.mysql : Protocol := ⟨"mysql", 3306, ("ssl-mode", "REQUIRED")⟩

/-- The address with its user and password.  A password counts only with a user,
and an address without a host has neither. -/
def withCredentials (settings : ServerSettings) (url : Url) : Option Url :=
  match settings.user with
  | none => some url
  | some user =>
    if url.hasHost then some (url.withUser user.toList (settings.password.getD "").toList)
    else none

/-- The address put together from its parts. -/
def assembled? (settings : ServerSettings) (protocol : Protocol) (host database : String) :
    Option Url := do
  let port := if settings.port = 0 then protocol.usualPort else settings.port
  let text := protocol.scheme ++ "://" ++ host ++ ":" ++ toString port ++ "/"
  let url ← (Url.ofText text).toOption
  let url ← settings.withCredentials url
  let url := url.below [database.toList]
  some (if settings.encrypted then url.withParameters [protocol.encryption] else url)

/-- The address of the server. -/
def url (settings : ServerSettings) (protocol : Protocol) : Result String :=
  match settings.address, settings.host, settings.database with
  | some address, _, _ => .ok address
  | none, none, _ => .error (.config .hostRequired)
  | none, some _, none => .error (.config .databaseRequired)
  | none, some host, some database =>
    match settings.assembled? protocol host database with
    | some url => .ok url.display
    | none => .error (.config (.invalidHost protocol.scheme host))

/-! ### Encryption -/

/-- The names of the parameter that decides about encryption. -/
def encryptionNames : List String :=
  ["sslmode", "ssl-mode"]

/-- The values of that parameter with which a connection has to be encrypted. -/
def encryptionValues : List String :=
  ["require", "verify-ca", "verify-full", "required", "verify_ca", "verify_identity"]

/-- Whether the parameters of a URL ask for an encrypted connection.  Of several
parameters the last one counts. -/
def asksForEncryption (query : String) : Bool :=
  let parameters := (query.splitOn "&").map fun pair => pair.splitOn "="
  let modes := parameters.filterMap fun pair =>
    match pair with
    | name :: value => if encryptionNames.contains name then some ("=".intercalate value) else none
    | [] => none
  (modes.getLast?.map fun mode => encryptionValues.contains mode.toLower).getD false

/-- Look at the address of a server before it is used.  Encrypted connections are
not available. -/
def checkAddress (address : String) : Except DatabaseFailure Unit :=
  match Url.ofText address with
  | .error cause => .error (.invalidAddress cause.message)
  | .ok url =>
    if (url.query.map fun query => asksForEncryption (String.ofList query)).getD false then
      .error .noEncryption
    else .ok ()

end ServerSettings

end Polyquery
