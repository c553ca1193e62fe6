import Polyquery.Search.Request
import Polyquery.Sql.Generate

/-!
# Generated queries

What a query becomes for one backend: a set of SQL statements, or envelopes for
a cluster.
-/

namespace Polyquery

/-- A query in the form of a backend. -/
inductive Generated where
  | sql (statements : StatementSet)
  | elastic (envelopes : List Search.Envelope)

namespace Generated

def toJson : Generated → Json
  | .sql statements => statements.toJson
  | .elastic envelopes => .arr (envelopes.map Search.Envelope.toJson)

/-- The form in which a generated query is shown: SQL by line, envelopes as
JSON. -/
def display : Generated → String
  | .sql statements => statements.display
  | .elastic envelopes => Json.pretty (.arr (envelopes.map Search.Envelope.toJson))

end Generated

/-- Write a query for a backend.  Clusters know no placeholders. -/
def Backend.generate (backend : Backend) (mode : Mode) (query : Query) : Result Generated :=
  match backend.dialect? with
  | some dialect => do return .sql (← query.statements dialect mode)
  | none => do return .elastic [← Search.Envelope.ofQuery query]

/-- The display form of a query for a backend, with literals in place. -/
def Backend.display (backend : Backend) (query : Query) : Result String := do
  return (← backend.generate .inline query).display

end Polyquery
