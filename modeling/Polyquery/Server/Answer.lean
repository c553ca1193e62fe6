import Polyquery.Connection
import Polyquery.Json.Reader
import Polyquery.Value

/-!
# Answers of SQL servers

A server answers a statement with rows of typed columns and the key that it
assigned last, or refuses it.  A cell holds null, a truth value, a number or a
text, as the type of its column says.
-/

namespace Polyquery.Server

/-- Rows of columns with types in `τ`. -/
structure ResultSet (τ : Type) where
  columns : List (String × τ)
  rows : List (List Json)

/-- The answer to a statement. -/
structure Answer (τ : Type) where
  set : ResultSet τ
  /-- The first of the keys that the statement made the server assign. -/
  assigned : Nat

/-- An answer or a refusal. -/
abbrev Reply (τ : Type) := Except DatabaseFailure (Answer τ)

/-- The answer of a server that has nothing to say. -/
def Reply.plain {τ : Type} : Reply τ := .ok ⟨⟨[], []⟩, 0⟩

namespace ResultSet

variable {τ : Type}

/-- The fields of one row.  Of columns with the same name the last one counts. -/
def toRow (read : τ → Json → Json) (columns : List (String × τ)) (cells : List Json) : Row :=
  Fields.ofList ((columns.zip cells).map fun (column, cell) => (column.1, read column.2 cell))

/-- The rows as records. -/
def toRows (read : τ → Json → Json) (set : ResultSet τ) : List Row :=
  set.rows.map (toRow read set.columns)

end ResultSet

/-! ### Cells -/

/-- A text, null otherwise. -/
def textCell : Json → Json
  | .str s => .str s
  | _ => .null

/-- A whole number, null otherwise. -/
def wholeCell : Json → Json
  | .num (.int n) => .int n
  | _ => .null

/-- The number in a cell.  Those that JSON cannot hold are written as texts. -/
def float? : Json → Option Float
  | .num (.float x) => some x
  | .num (.int n) => some (Float.ofInt n)
  | .str "NaN" => some (0.0 / 0.0)
  | .str "inf" => some (1.0 / 0.0)
  | .str "-inf" => some (-1.0 / 0.0)
  | .str s => (Json.NumberParts.ofText? s.toList).bind Json.NumberParts.nearest?
  | _ => none

/-- A floating point number of 64 bits; null if it is not finite. -/
def doubleCell (cell : Json) : Json :=
  ((float? cell).map Value.floatJson).getD .null

/-- A floating point number of 32 bits; null if it is not finite. -/
def singleCell (cell : Json) : Json :=
  ((float? cell).map fun x => Value.floatJson x.toFloat32.toFloat).getD .null

/-- A JSON value in a text, null otherwise. -/
def jsonCell : Json → Json
  | .str text => (Json.ofText? text).getD .null
  | _ => .null

/-- A point in time in a text, written in some form; null otherwise. -/
def timeCell (form : Timestamp → String) : Json → Json
  | .str text => ((Timestamp.ofText? text).map fun t => .str (form t)).getD .null
  | _ => .null

end Polyquery.Server
