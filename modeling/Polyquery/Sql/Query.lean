import Polyquery.Query
import Polyquery.Sql.Expression

/-!
# Selections and deletions in SQL

A selection or deletion is one statement.  Its parts are written in the order
in which they stand in the text, so that parameters are numbered from left to
right.
-/

namespace Polyquery.Query

/-- The selected expressions, or a star if none is named. -/
def writeProjection (d : Dialect) (query : Query) : Writing (List Piece) := do
  if query.selectsAll then return [.text "*"]
  let selected ← query.selected.mapM fun e => e.write d
  let named ← query.aliases.mapM fun (name, e) => do
    return (← e.write d) ++ [.text " AS ", .name name]
  return separated ", " (selected ++ named)

/-- The opening words, up to the table. -/
def writeHead (d : Dialect) (query : Query) : Writing (List Piece) :=
  match query.command with
  | .select => do
    let projection ← query.writeProjection d
    return [.text (d.keyword .select ++ " ")] ++ projection ++
      [.text " FROM ", .name query.table.name]
  | .delete => return [.text (d.keyword .delete ++ " FROM "), .name query.table.name]
  | .upsert => throw (.generation .upsertIsPerRun)

/-- The conditions, all of which have to hold. -/
def writeFilters (d : Dialect) (query : Query) : Writing (List Piece) := do
  if query.filters.isEmpty then return []
  let filters ← query.filters.mapM fun e => e.writeOperand d .and
  return .text " WHERE " :: separated " AND " filters

/-- The order of the rows. -/
def writeSorts (d : Dialect) (query : Query) : Writing (List Piece) := do
  if query.sorts.isEmpty then return []
  let sorts ← query.sorts.mapM fun sort => do
    return (← sort.expr.write d) ++ [.text (" " ++ sort.order.operator.sql)]
  return .text " ORDER BY " :: separated ", " sorts

/-- How many rows, and from which on. -/
def paging (query : Query) : List Piece :=
  (if query.take = 0 then [] else [.text (" LIMIT " ++ toString query.take)]) ++
    (if query.skip = 0 then [] else [.text (" OFFSET " ++ toString query.skip)])

/-- What follows the conditions; only a selection has an order and pages. -/
def writeTail (d : Dialect) (query : Query) : Writing (List Piece) :=
  match query.command with
  | .select => do return (← query.writeSorts d) ++ query.paging
  | _ => return []

/-- The whole statement. -/
def write (d : Dialect) (query : Query) : Writing (List Piece) := do
  let head ← query.writeHead d
  let filters ← query.writeFilters d
  let tail ← query.writeTail d
  return head ++ filters ++ tail ++ [.text ";"]

/-- The draft of a selection or deletion. -/
def draft (d : Dialect) (query : Query) : Result Draft :=
  match (query.write d).run with
  | (.ok pieces, params) => .ok ⟨pieces, params⟩
  | (.error e, _) => .error e

end Polyquery.Query
