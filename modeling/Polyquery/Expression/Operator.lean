/-!
# Operators and commands

The operators of expressions, how each is placed among its operands, and how it
is spelled in SQL and in the neutral display form.  Beside them stand the three
commands a query can issue.
-/

namespace Polyquery

/-- Where a symbol stands among its operands. -/
inductive Placement where
  /-- No operands: literals, references and commands. -/
  | alone
  /-- In front of its operand: `NOT x`. -/
  | before
  /-- Behind its operand: `x IS NULL`. -/
  | after
  /-- Between two operands: `x = y`. -/
  | between
  /-- Between two operands without spaces: `table.column`. -/
  | joined
deriving DecidableEq

namespace Placement

/-- The number of operands. -/
def arity : Placement → Nat
  | .alone => 0
  | .before | .after => 1
  | .between | .joined => 2

/-- The name of a placement. -/
def name : Placement → String
  | .alone => "nullary"
  | .before => "prefix"
  | .after => "postfix"
  | .between => "infix"
  | .joined => "infix_without_spaces"

end Placement

/-- The operators of expressions. -/
inductive Operator where
  | member
  | eq
  | ne
  | lt
  | le
  | gt
  | ge
  | and
  | or
  | not
  | isNull
  | isNotNull
  | asc
  | desc
deriving DecidableEq

namespace Operator

def placement : Operator → Placement
  | member => .joined
  | eq | ne | lt | le | gt | ge | and | or => .between
  | not => .before
  | isNull | isNotNull | asc | desc => .after

/-- The spelling in SQL, the same for every dialect. -/
def sql : Operator → String
  | member => "."
  | eq => "="
  | ne => "<>"
  | lt => "<"
  | le => "<="
  | gt => ">"
  | ge => ">="
  | and => "AND"
  | or => "OR"
  | not => "NOT"
  | isNull => "IS NULL"
  | isNotNull => "IS NOT NULL"
  | asc => "ASC"
  | desc => "DESC"

/-- The spelling in the display form of expressions. -/
def token : Operator → String
  | member => "."
  | eq => "=="
  | ne => "!="
  | lt => "<"
  | le => "<="
  | gt => ">"
  | ge => ">="
  | and => "&&"
  | or => "||"
  | not => "!"
  | isNull => "isNull"
  | isNotNull => "isNotNull"
  | asc => "ascending"
  | desc => "descending"

/-- The name in a description of a node. -/
def label : Operator → String
  | member => "Member"
  | eq => "Eq"
  | ne => "Ne"
  | lt => "Lt"
  | le => "Le"
  | gt => "Gt"
  | ge => "Ge"
  | and => "And"
  | or => "Or"
  | not => "Not"
  | isNull => "IsNull"
  | isNotNull => "IsNotNull"
  | asc => "Asc"
  | desc => "Desc"

/-- Whether the operator compares two values. -/
def isComparison : Operator → Bool
  | eq | ne | lt | le | gt | ge => true
  | _ => false

end Operator

/-- What a query does. -/
inductive Command where
  | select
  | upsert
  | delete
deriving DecidableEq

namespace Command

/-- The name of a command in documents and answers. -/
def name : Command → String
  | select => "select"
  | upsert => "upsert"
  | delete => "delete"

/-- The name in a description of a node. -/
def label : Command → String
  | select => "Select"
  | upsert => "Upsert"
  | delete => "Delete"

/-- The command with a name. -/
def ofName? (name : String) : Option Command :=
  if name = "select" then some select
  else if name = "upsert" then some upsert
  else if name = "delete" then some delete
  else none

end Command

end Polyquery
