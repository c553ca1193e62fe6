import Polyquery.Server.Answer

/-!
# Columns of MySQL

The types of columns, and what their cells become in a record.  A type may be
marked as unsigned or binary; binary text is taken for JSON.
-/

namespace Polyquery.Mysql

/-- What a column holds. -/
inductive Kind where
  | text
  | whole
  /-- A year or a bit, which count as numbers only if they are unsigned. -/
  | unsignedOnly
  | single
  | double
  | datetime
  | json
  /-- A type without a value in JSON. -/
  | other
deriving DecidableEq

/-- A type of MySQL. -/
structure ColumnType where
  kind : Kind
  isUnsigned : Bool
  isBinary : Bool
deriving DecidableEq

namespace ColumnType

/-- What the named types hold. -/
def kinds : List (String × Kind) :=
  [("varchar", .text), ("varstring", .text), ("char", .text), ("text", .text),
    ("tinytext", .text), ("mediumtext", .text), ("longtext", .text), ("enum", .text),
    ("tinyint", .whole), ("smallint", .whole), ("mediumint", .whole), ("int", .whole),
    ("bigint", .whole), ("year", .unsignedOnly), ("bit", .unsignedOnly), ("float", .single),
    ("double", .double), ("datetime", .datetime), ("json", .json), ("timestamp", .other),
    ("date", .other), ("time", .other), ("decimal", .other), ("set", .other), ("null", .other)]

/-- The type with a name. -/
def ofName (name : String) (isUnsigned isBinary : Bool) : ColumnType :=
  ⟨(kinds.lookup name).getD .other, isUnsigned, isBinary⟩

/-- The value of a cell. -/
def read (type : ColumnType) : Json → Json :=
  match type.kind with
  | .text => if type.isBinary then Server.jsonCell else Server.textCell
  | .whole => Server.wholeCell
  | .unsignedOnly => if type.isUnsigned then Server.wholeCell else fun _ => .null
  | .single => Server.singleCell
  | .double => Server.doubleCell
  | .datetime => Server.timeCell Timestamp.display
  | .json => Server.jsonCell
  | .other => fun _ => .null

end ColumnType

end Polyquery.Mysql
