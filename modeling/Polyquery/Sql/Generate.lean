import Polyquery.Sql.Query
import Polyquery.Sql.Upsert

/-!
# The statements of a query

A selection or deletion is one statement, an upsert one or two for each run of
rows.
-/

namespace Polyquery.Query

/-- The statements of a query. -/
def drafts (d : Dialect) (query : Query) : Result (List Draft) :=
  match query.command with
  | .upsert => query.upsertDrafts d
  | _ => do return [← query.draft d]

/-- The statements of a query in a dialect, with values in the given way. -/
def statements (d : Dialect) (mode : Mode) (query : Query) : Result StatementSet := do
  return (← query.drafts d).map (Draft.statement d mode)

end Polyquery.Query
