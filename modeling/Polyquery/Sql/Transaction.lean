import Polyquery.Sql.Statement

/-!
# Transactions in SQL

The statements that begin and end a transaction, and the levels of isolation
from other transactions.
-/

namespace Polyquery

/-- How far a transaction is isolated from others. -/
inductive Isolation where
  /-- What the server is set to. -/
  | standard
  | readUncommitted
  | readCommitted
  | repeatableRead
  | serializable
deriving DecidableEq

namespace Isolation

/-- The words with which SQL sets the level; none for the level of the
server. -/
def sql? : Isolation → Option String
  | standard => none
  | readUncommitted => some "READ UNCOMMITTED"
  | readCommitted => some "READ COMMITTED"
  | repeatableRead => some "REPEATABLE READ"
  | serializable => some "SERIALIZABLE"

def name : Isolation → String
  | standard => "default"
  | readUncommitted => "read_uncommitted"
  | readCommitted => "read_committed"
  | repeatableRead => "repeatable_read"
  | serializable => "serializable"

def all : List Isolation :=
  [standard, readUncommitted, readCommitted, repeatableRead, serializable]

/-- The level with a name. -/
def ofName? (name : String) : Option Isolation :=
  all.find? fun level => level.name = name

end Isolation

namespace Transaction

/-- The statements that begin a transaction. -/
def start (isolation : Isolation) (readOnly : Bool) : StatementSet :=
  ⟨"START TRANSACTION " ++ (if readOnly then "READ ONLY" else "READ WRITE") ++ ";", []⟩ ::
    match isolation.sql? with
    | none => []
    | some level => [⟨"SET TRANSACTION ISOLATION LEVEL " ++ level ++ ";", []⟩]

/-- The statement that makes the changes of a transaction permanent. -/
def commit : Statement :=
  ⟨"COMMIT;", []⟩

/-- The statement that undoes the changes of a transaction. -/
def rollback : Statement :=
  ⟨"ROLLBACK;", []⟩

end Transaction

end Polyquery
