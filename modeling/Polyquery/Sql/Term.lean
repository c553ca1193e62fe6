import Polyquery.Json.Reader
import Polyquery.Sql.Token
import Polyquery.Value

/-!
# Terms of SQL

The expressions of SQL text.  Connectors bind with different strength: `OR` is
the weakest, then `AND`, `NOT`, equality with `IS`, and the other comparisons;
connectors of one strength group to the left.  The reader keeps the connectors
that wait for their right side on a stack and joins them when a connector of at
most their strength follows.
-/

namespace Polyquery.Sql

/-- What joins two terms. -/
inductive Connector where
  | or
  | and
  | eq
  | ne
  | is
  | isNot
  | lt
  | le
  | gt
  | ge
deriving DecidableEq

namespace Connector

/-- How strongly a connector binds. -/
def strength : Connector → Nat
  | or => 1
  | and => 2
  | eq | ne | is | isNot => 4
  | lt | le | gt | ge => 5

end Connector

/-- How strongly `NOT` binds. -/
def notStrength : Nat := 3

/-- The name of a column as written. -/
structure ColumnName where
  /-- The table, and in front of it the database, as far as they are named. -/
  qualifiers : List String
  mark : Char
  name : String
deriving DecidableEq

/-- An expression over names in `ν`. -/
inductive Term (ν : Type) where
  | name (n : ν)
  | value (v : Value)
  | parameter (n : Nat)
  /-- The key of the row that was stored last. -/
  | lastRowId
  | not (operand : Term ν)
  | join (connector : Connector) (left right : Term ν)

namespace Term

/-- Replace the names of a term, unless one has no replacement. -/
def mapNames {ν μ ε : Type} (f : ν → Except ε μ) : Term ν → Except ε (Term μ)
  | name n => do return name (← f n)
  | value v => return value v
  | parameter n => return parameter n
  | lastRowId => return lastRowId
  | not operand => do return not (← operand.mapNames f)
  | join connector left right => do return join connector (← left.mapNames f) (← right.mapNames f)

/-- The names of a term from left to right. -/
def names {ν : Type} : Term ν → List ν
  | name n => [n]
  | value _ | parameter _ | lastRowId => []
  | not operand => operand.names
  | join _ left right => left.names ++ right.names

/-- Replace the names of a term. -/
def map {ν μ : Type} (f : ν → μ) : Term ν → Term μ
  | name n => name (f n)
  | value v => value v
  | parameter n => parameter n
  | lastRowId => lastRowId
  | not operand => not (operand.map f)
  | join connector left right => join connector (left.map f) (right.map f)

/-- The terms that a connector joins, from left to right. -/
def parts {ν : Type} (connector : Connector) : Term ν → List (Term ν)
  | join other left right =>
    if other = connector then parts connector left ++ parts connector right
    else [join other left right]
  | t => [t]

/-- The number of nodes of a term. -/
def size {ν : Type} : Term ν → Nat
  | name _ | value _ | parameter _ | lastRowId => 1
  | not operand => operand.size + 1
  | join _ left right => left.size + right.size + 1

/-! ### Reading -/

/-- What waits for the term to its right. -/
inductive Waiting where
  | parenthesis
  | not
  | join (left : Term ColumnName) (connector : Connector)

/-- Join a term with what waits to its left and binds at least as strongly as
given. -/
def settle (strength : Nat) (t : Term ColumnName) : List Waiting → Term ColumnName × List Waiting
  | .not :: rest =>
    if strength ≤ notStrength then settle strength (not t) rest else (t, .not :: rest)
  | .join left connector :: rest =>
    if strength ≤ connector.strength then settle strength (join connector left t) rest
    else (t, .join left connector :: rest)
  | waiting => (t, waiting)

/-- The value of a number as written: a whole number if it is written as one and
64 bits hold it, or else the nearest number of double precision. -/
def numberValue? (digits : String) : Option Value := do
  let parts ← Json.NumberParts.ofText? digits.toList
  match parts.number? with
  | some (.int n) => some (Value.ofJson (.int n))
  | _ => parts.nearest?.map Value.float

/-- The connector that a token stands for, `IS` apart. -/
def connector? : Token → Option Connector
  | .keyword .or => some .or
  | .keyword .and => some .and
  | .eq => some .eq
  | .ne => some .ne
  | .lt => some .lt
  | .le => some .le
  | .gt => some .gt
  | .ge => some .ge
  | _ => none

/-- The function that asks for the key of the row that was stored last. -/
def lastRowIdName : String := "last_insert_rowid"

/-- The number of tokens that an operand takes, and the operand. -/
def operand? : List Token → Option (Nat × Term ColumnName)
  | .name _ a :: .dot :: .name _ b :: .dot :: .name mark c :: _ =>
    some (5, name ⟨[a, b], mark, c⟩)
  | .name _ a :: .dot :: .name mark b :: _ => some (3, name ⟨[a], mark, b⟩)
  | .name mark a :: _ => some (1, name ⟨[], mark, a⟩)
  | .parameter n :: _ => some (1, parameter n)
  | .text s :: _ => some (1, value (.str s))
  | .number digits :: _ => (numberValue? digits).map fun v => (1, value v)
  | .keyword .null :: _ => some (1, value .null)
  | .word w :: .opening :: .closing :: _ =>
    if w.toLower = lastRowIdName then some (3, lastRowId) else none
  | _ => none

/-- Read the rest of a term: `before` is the term that has just been read, if
any, and `skip` the number of tokens that belong to it.  The term ends in front
of the first token that cannot continue it. -/
def read? (waiting : List Waiting) (before : Option (Term ColumnName)) :
    Nat → List Token → Option (Term ColumnName × List Token)
  | skip + 1, _ :: rest => read? waiting before skip rest
  | _, [] => before.bind fun t => finish? (settle 0 t waiting) []
  | 0, token :: rest =>
    match before with
    | none =>
      match token with
      | .keyword .not => read? (.not :: waiting) none 0 rest
      | .opening => read? (.parenthesis :: waiting) none 0 rest
      | token =>
        (operand? (token :: rest)).bind fun (taken, t) =>
          read? waiting (some t) (taken - 1) rest
    | some t =>
      match token, connector? token with
      | .keyword .is, _ =>
        let negated := rest.head? == some (.keyword .not)
        let connector := if negated then Connector.isNot else .is
        let (left, waiting) := settle connector.strength t waiting
        read? (.join left connector :: waiting) none (if negated then 1 else 0) rest
      | _, some connector =>
        let (left, waiting) := settle connector.strength t waiting
        read? (.join left connector :: waiting) none 0 rest
      | .closing, _ =>
        match settle 0 t waiting with
        | (t, .parenthesis :: waiting) => read? waiting (some t) 0 rest
        | settled => finish? settled (token :: rest)
      | _, _ => finish? (settle 0 t waiting) (token :: rest)
where
  /-- A term is complete when nothing waits for it. -/
  finish? : Term ColumnName × List Waiting → List Token →
      Option (Term ColumnName × List Token)
    | (t, []), rest => some (t, rest)
    | _, _ => none

end Term

/-- Read a term from the front of some tokens. -/
def Term.ofTokens? (tokens : List Token) : Option (Term ColumnName × List Token) :=
  Term.read? [] none 0 tokens

end Polyquery.Sql
