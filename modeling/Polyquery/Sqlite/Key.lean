/-!
# Keys of SQLite

A key orders the rows of a table by some of their columns, and rows that agree
on these by their numbers.  No two rows agree on all columns of a key, unless
one of them is null.
-/

namespace Polyquery.Sqlite

/-- A column of a key. -/
structure KeyColumn where
  position : Nat
  descending : Bool
deriving DecidableEq

/-- A key of a table. -/
structure Key where
  columns : List KeyColumn
  /-- The key is the primary one. -/
  primary : Bool
deriving DecidableEq

namespace Key

/-- The positions of the columns. -/
def positions (key : Key) : List Nat :=
  key.columns.map KeyColumn.position

/-- Add a key to the keys of a table.  Two keys of the same columns are one,
which is primary if either is. -/
def insert (key : Key) (keys : List Key) : List Key :=
  if keys.any fun other => other.positions = key.positions then
    keys.map fun other =>
      if other.positions = key.positions then
        { other with primary := other.primary || key.primary }
      else other
  else keys ++ [key]

end Key

end Polyquery.Sqlite
