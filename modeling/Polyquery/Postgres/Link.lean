import Polyquery.Postgres.Column
import Polyquery.Session

/-!
# Connections to PostgreSQL

The server answers from a list of replies.  Connections have numbers; those that
nobody uses wait in line, and the one that has waited longest is taken first.  A
connection that is taken back may still be inside a transaction.
-/

namespace Polyquery.Postgres

/-- What is sent to the server. -/
inductive Message where
  /-- Ask for the types of parameters. -/
  | infer (sql : String) (declared : List String)
  /-- Run a statement with parameters. -/
  | run (sql : String) (params : List Value)
  /-- Run a statement about transactions. -/
  | plain (sql : String)

/-- A message with the connection it went over and the number of the transaction
that this connection was in. -/
structure Sent where
  connection : Nat
  transaction : Option Nat
  message : Message

/-- What a statement about transactions does to its connection. -/
inductive Boundary where
  | opens
  | inside
  | closes

/-- The state of a server. -/
structure Server where
  /-- The replies to statements that are still to come. -/
  replies : List (Server.Reply ColumnType)
  /-- The types of parameters that are still to be told. -/
  inferences : List (Except DatabaseFailure (List ColumnType))
  /-- Why every login fails. -/
  refusal : Option DatabaseFailure
  /-- How many transactions were tried to be started. -/
  started : Nat
  /-- The connections that are in a transaction, with its number. -/
  inTransaction : List (Nat × Nat)
  sent : List Sent

namespace Server

/-- A server that has not been called. -/
def fresh (replies : List (Server.Reply ColumnType))
    (inferences : List (Except DatabaseFailure (List ColumnType)))
    (refusal : Option DatabaseFailure) : Server :=
  ⟨replies, inferences, refusal, 0, [], []⟩

def transaction? (server : Server) (connection : Nat) : Option Nat :=
  server.inTransaction.lookup connection

/-- Write a message down. -/
def log (server : Server) (connection : Nat) (transaction : Option Nat) (message : Message) :
    Server :=
  { server with sent := server.sent ++ [⟨connection, transaction, message⟩] }

/-- The reply to a statement. -/
def answer (server : Server) : Server.Reply ColumnType × Server :=
  (server.replies.headD Server.Reply.plain, { server with replies := server.replies.tail })

/-- Run a statement with parameters. -/
def run (server : Server) (connection : Nat) (sql : String) (params : List Value) :
    Server.Reply ColumnType × Server :=
  (server.log connection (server.transaction? connection) (.run sql params)).answer

/-- Tell the types of parameters; those that are not told are texts. -/
def infer (server : Server) (connection : Nat) (sql : String) (declared : List String) :
    Except DatabaseFailure (List ColumnType) × Server :=
  let server := server.log connection (server.transaction? connection) (.infer sql declared)
  (server.inferences.headD (.ok []), { server with inferences := server.inferences.tail })

/-- Leave the transaction of a connection. -/
def leave (server : Server) (connection : Nat) : Server :=
  { server with inTransaction := server.inTransaction.filter fun entry => entry.1 ≠ connection }

/-- Run a statement about transactions.  A start that is refused still uses up a
number; an end counts whatever the reply is. -/
def plain (server : Server) (connection : Nat) (boundary : Boundary) (sql : String) :
    Server.Reply ColumnType × Server :=
  match boundary with
  | .opens =>
    let number := server.started + 1
    let (reply, after) := ({ server with started := number }.log connection (some number)
      (.plain sql)).answer
    match reply with
    | .ok _ =>
      let left := after.leave connection
      (reply, { left with inTransaction := (connection, number) :: left.inTransaction })
    | .error _ => (reply, after)
  | .inside =>
    (server.log connection (server.transaction? connection) (.plain sql)).answer
  | .closes =>
    let (reply, after) :=
      (server.log connection (server.transaction? connection) (.plain sql)).answer
    (reply, after.leave connection)

end Server

/-- The state of a client: the connections of its pool and those that belong to
open transactions. -/
structure Link where
  server : Server
  /-- The connections that nobody uses, the longest waiting first. -/
  idle : List Nat
  /-- The connections of open transactions. -/
  held : List (Handle × Nat)
  /-- How many handles were given out. -/
  given : Nat
  /-- How many connections were made. -/
  made : Nat
  closed : Bool

namespace Link

/-- The largest number of connections. -/
def largestPool : Nat := 5

/-- A client that has no connection yet. -/
def unconnected (server : Server) : Link :=
  ⟨server, [], [], 0, 0, false⟩

/-- Take a connection from the pool, or make one. -/
def acquire : Session Link Nat := do
  let link ← get
  if link.closed then throw (.database .poolClosed)
  match link.idle with
  | connection :: rest =>
    set { link with idle := rest }
    return connection
  | [] =>
    if largestPool ≤ link.held.length then throw (.database .poolTimedOut)
    if let some failure := link.server.refusal then throw (.database failure)
    set { link with made := link.made + 1 }
    return link.made + 1

/-- Give a connection back to the pool. -/
def giveBack (connection : Nat) : Session Link Unit :=
  modify fun link => { link with idle := link.idle ++ [connection] }

/-- Borrow a connection for an action. -/
def borrowing {α : Type} (action : Nat → Session Link α) : Session Link α := do
  let connection ← acquire
  let result ← (action connection).attempt
  giveBack connection
  Session.ofResult result

/-- Let the server act. -/
def call {α : Type} (act : Server → Except DatabaseFailure α × Server) : Session Link α := do
  let link ← get
  let (reply, server) := act link.server
  set { link with server := server }
  match reply with
  | .ok answer => return answer
  | .error failure => throw (.database failure)

/-- The connection of an open transaction. -/
def pinned (handle : Handle) : Session Link Nat := do
  match (← get).held.lookup handle with
  | some connection => return connection
  | none => throw (.transaction (.unknownHandle handle))

/-- Run an action on the connection of a transaction, or on a borrowed one. -/
def on {α : Type} (handle : Option Handle) (action : Nat → Session Link α) : Session Link α :=
  match handle with
  | some handle => do action (← pinned handle)
  | none => borrowing action

/-- The number of transactions that hold a connection. -/
def openTransactions (link : Link) : Nat :=
  link.held.length

end Link

end Polyquery.Postgres
