import Polyquery.Output.Toon

/-!
# Formats of output

What a task reports is shown as text for readers, as JSON, or as TOON.
-/

namespace Polyquery.Output

/-- How a report is shown. -/
inductive Format where
  | table
  | json
  | toon
deriving DecidableEq

namespace Format

/-- The name on the command line. -/
def name : Format → String
  | table => "table"
  | json => "json"
  | toon => "toon"

/-- All formats, in the order in which they are listed. -/
def all : List Format :=
  [table, json, toon]

/-- The format with a name; `ignoreCase` folds ASCII letters. -/
def ofName? (name : String) (ignoreCase : Bool) : Option Format :=
  let given := if ignoreCase then String.ofList (name.toList.map Char.toLower) else name
  all.find? fun format => format.name = given

end Format

/-- What is shown: a text for readers, and the same as fields. -/
structure Report where
  text : String
  fields : List (String × Json)

namespace Report

/-- A report in a format. -/
def render (report : Report) : Format → String
  | .table => report.text
  | .json => Json.pretty (.obj report.fields)
  | .toon => Toon.write (.obj report.fields)

end Report

end Polyquery.Output
