import Polyquery.Expression.Arity
import Polyquery.Sql.Statement

/-!
# Expressions in SQL

An expression is written from left to right; every literal becomes the next
parameter of the statement.  A symbol whose operands are not as many as its
placement asks for is an error, found before any of its operands is written.
-/

namespace Polyquery

/-- Writing a statement: the values collected so far stay collected when an
error stops the writing. -/
abbrev Writing (α : Type) := ExceptT Error (StateM (List Value)) α

namespace Writing

/-- Run from the start of a statement. -/
def run {α : Type} (writing : Writing α) : Result α × List Value :=
  ExceptT.run writing |>.run []

/-- Turn a value into the next parameter. -/
def bind (value : Value) : Writing Piece := do
  modify (· ++ [value])
  return .bound (← get).length

/-- Turn a field of a row into the next parameter; a missing field is null. -/
def bindField (value : Option Json) : Writing Piece :=
  bind ((value.map Value.ofJson).getD .null)

end Writing

/-- Whether an operand of an operator needs parentheses.  Operators between two
operands do below a prefix or suffix operator; conjunctions and disjunctions do
below any other operator but themselves. -/
def Operator.encloses (parent : Operator) (operand : Expr) : Bool :=
  match operand.operator? with
  | none => false
  | some child =>
    child.placement = .between &&
      match parent.placement with
      | .before | .after => true
      | _ => (child = .and || child = .or) && child ≠ parent

/-- Put parentheses around pieces if needed. -/
def parenthesized (needed : Bool) (pieces : List Piece) : List Piece :=
  if needed then .text "(" :: (pieces ++ [.text ")"]) else pieces

/-- The pieces of an expression. -/
def Expr.write (d : Dialect) : Expr → Writing (List Piece)
  | .node (.literal value) [] => do return [← Writing.bind value]
  | .node (.reference name) [] => return [.name name]
  | .node (.command command) [] => return [.text (d.keyword command)]
  | .node (.op o) [operand] =>
    match o.placement with
    | .before => do
      let pieces ← operand.write d
      return .text (o.sql ++ " ") :: parenthesized (o.encloses operand) pieces
    | .after => do
      let pieces ← operand.write d
      return parenthesized (o.encloses operand) pieces ++ [.text (" " ++ o.sql)]
    | _ => throw (.generation (.arity (Symbol.op o).described o.placement.arity 1))
  | .node (.op o) [left, right] =>
    match o.placement with
    | .joined => do
      let first ← left.write d
      let second ← right.write d
      return first ++ [.text o.sql] ++ second
    | .between => do
      let first ← left.write d
      let second ← right.write d
      return parenthesized (o.encloses left) first ++ [.text (" " ++ o.sql ++ " ")] ++
        parenthesized (o.encloses right) second
    | _ => throw (.generation (.arity (Symbol.op o).described o.placement.arity 2))
  | .node symbol operands =>
    throw (.generation (.arity symbol.described symbol.placement.arity operands.length))

/-- The pieces of an expression that stands as an operand. -/
def Expr.writeOperand (d : Dialect) (parent : Operator) (e : Expr) : Writing (List Piece) := do
  return parenthesized (parent.encloses e) (← e.write d)

/-- Lists of pieces with a separator between them. -/
def separated (separator : String) (items : List (List Piece)) : List Piece :=
  [Piece.text separator].intercalate items

end Polyquery
