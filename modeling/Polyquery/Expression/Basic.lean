import Polyquery.Expression.Operator
import Polyquery.Value

/-!
# Expressions

An expression is a tree of symbols.  A tree may be assembled with any number of
operands; whether every symbol has the operands that its placement asks for is
checked when the tree is rendered.
-/

namespace Polyquery

/-- What stands at a node of an expression. -/
inductive Symbol where
  | literal (value : Value)
  | reference (name : String)
  | op (operator : Operator)
  | command (command : Command)
deriving DecidableEq

namespace Symbol

def placement : Symbol → Placement
  | .op o => o.placement
  | _ => .alone

/-- The form in which error messages name a symbol. -/
def described : Symbol → String
  | .literal v => "Literal(" ++ v.described ++ ")"
  | .reference name => "Reference(" ++ Text.shown name ++ ")"
  | .op o => "Op(" ++ o.label ++ ")"
  | .command c => "Command(" ++ c.label ++ ")"

end Symbol

/-- An expression: a symbol and its operands. -/
inductive Expr where
  | node (symbol : Symbol) (operands : List Expr)

namespace Expr

instance : Inhabited Expr := ⟨.node (.literal .null) []⟩

def symbol : Expr → Symbol
  | .node symbol _ => symbol

def operands : Expr → List Expr
  | .node _ operands => operands

/-- A literal. -/
def literal (value : Value) : Expr :=
  .node (.literal value) []

/-- A reference to a name. -/
def reference (name : String) : Expr :=
  .node (.reference name) []

/-- A command as an expression. -/
def command (command : Command) : Expr :=
  .node (.command command) []

/-- The column of a table. -/
def member (table column : String) : Expr :=
  .node (.op .member) [reference table, reference column]

/-- An operator behind or in front of one operand. -/
def unary (operator : Operator) (operand : Expr) : Expr :=
  .node (.op operator) [operand]

/-- An operator between two operands. -/
def binary (operator : Operator) (left right : Expr) : Expr :=
  .node (.op operator) [left, right]

/-- The operator of an expression, if it is one. -/
def operator? (e : Expr) : Option Operator :=
  match e.symbol with
  | .op operator => some operator
  | _ => none

/-- The value of a literal. -/
def literal? (e : Expr) : Option Value :=
  match e.symbol with
  | .literal value => some value
  | _ => none

/-- The name of a reference. -/
def reference? (e : Expr) : Option String :=
  match e.symbol with
  | .reference name => some name
  | _ => none

/-- The command of a command expression. -/
def command? (e : Expr) : Option Command :=
  match e.symbol with
  | .command c => some c
  | _ => none

mutual

/-- The number of literals in an expression.  Whatever hangs below a literal
does not count. -/
def literalCount : Expr → Nat
  | .node (.literal _) _ => 1
  | .node _ operands => literalCounts operands

/-- The number of literals in a list of expressions. -/
def literalCounts : List Expr → Nat
  | [] => 0
  | e :: rest => literalCount e + literalCounts rest

end

/-- The display form of an expression, which names no dialect. -/
def display : Expr → String
  | .node (.literal value) _ => value.display
  | .node (.reference name) _ => name
  | .node (.command c) _ => c.name
  | .node (.op o) [left, right] =>
    match o.placement with
    | .joined => left.display ++ o.token ++ right.display
    | .between => "(" ++ left.display ++ " " ++ o.token ++ " " ++ right.display ++ ")"
    | _ => o.token ++ "<2 children>"
  | .node (.op o) [operand] =>
    match o.placement with
    | .before => o.token ++ operand.display
    | .after => operand.display ++ "." ++ o.token ++ "()"
    | _ => o.token ++ "<1 children>"
  | .node (.op o) operands => o.token ++ "<" ++ toString operands.length ++ " children>"

end Expr

end Polyquery
