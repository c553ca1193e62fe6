import Polyquery.Server.Answer

/-!
# Columns of PostgreSQL

The types of columns and parameters, and what their cells become in a record.
-/

namespace Polyquery.Postgres

/-- A type of PostgreSQL. -/
inductive ColumnType where
  | text
  | varchar
  | bpchar
  | name
  | unknown
  | int2
  | int4
  | int8
  | float4
  | float8
  | bool
  | date
  | time
  | timestamp
  | timestamptz
  | numeric
  | uuid
  | json
  | jsonb
  | bytea
  | oid
  | char
deriving DecidableEq

namespace ColumnType

/-- The types with their names. -/
def names : List (String × ColumnType) :=
  [("text", text), ("varchar", varchar), ("bpchar", bpchar), ("name", name),
    ("unknown", unknown), ("int2", int2), ("int4", int4), ("int8", int8), ("float4", float4),
    ("float8", float8), ("bool", bool), ("date", date), ("time", time),
    ("timestamp", timestamp), ("timestamptz", timestamptz), ("numeric", numeric),
    ("uuid", uuid), ("json", json), ("jsonb", jsonb), ("bytea", bytea), ("oid", oid),
    ("char", char)]

/-- The type with a name. -/
def ofName? (name : String) : Option ColumnType :=
  names.lookup name

/-- The name of the type in a cast. -/
def castName : ColumnType → String
  | text => "TEXT"
  | varchar => "VARCHAR"
  | bpchar => "CHAR"
  | name => "NAME"
  | unknown => "UNKNOWN"
  | int2 => "INT2"
  | int4 => "INT4"
  | int8 => "INT8"
  | float4 => "FLOAT4"
  | float8 => "FLOAT8"
  | bool => "BOOL"
  | date => "DATE"
  | time => "TIME"
  | timestamp => "TIMESTAMP"
  | timestamptz => "TIMESTAMPTZ"
  | numeric => "NUMERIC"
  | uuid => "UUID"
  | json => "JSON"
  | jsonb => "JSONB"
  | bytea => "BYTEA"
  | oid => "OID"
  | char => "\"CHAR\""

/-- The value of a cell.  Types without a value in JSON give null. -/
def read : ColumnType → Json → Json
  | text | varchar | bpchar | name | unknown => Server.textCell
  | int2 | int4 | int8 => Server.wholeCell
  | float4 => Server.singleCell
  | float8 => Server.doubleCell
  | bool => fun
    | .bool b => .bool b
    | _ => .null
  | timestamp => Server.timeCell Timestamp.display
  | timestamptz => Server.timeCell Timestamp.iso
  | date => Server.timeCell Timestamp.dateText
  | json | jsonb => Server.jsonCell
  | time | numeric | uuid | bytea | oid | char => fun _ => .null

end ColumnType

end Polyquery.Postgres
