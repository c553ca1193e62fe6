import Polyquery.Backend
import Polyquery.Expression.Operator
import Polyquery.Sql.Quoting
import Polyquery.Value

/-!
# Spelling by dialect

How the three dialects of SQL spell names, strings, truth values, parameters
and the words that open a statement.
-/

namespace Polyquery.Dialect

open Sql

/-- The mark around names. -/
def nameMark : Dialect → Char
  | mysql => '`'
  | sqlite => '"'
  | postgres => '"'

/-- A name in quotation marks. -/
def quoteName (d : Dialect) (name : String) : String :=
  Sql.quoteName d.nameMark name

/-- A string literal.  PostgreSQL takes backslashes as they are. -/
def quoteText (d : Dialect) (text : String) : String :=
  match d with
  | mysql | sqlite => enclosed '\'' (escaped '\'' text)
  | postgres => enclosed '\'' (doubled '\'' text)

/-- The `n`-th parameter, counted from one. -/
def placeholder (d : Dialect) (n : Nat) : String :=
  match d with
  | mysql | sqlite => "?"
  | postgres => "$" ++ toString n

/-- A truth value. -/
def boolean (d : Dialect) (b : Bool) : String :=
  match d, b with
  | mysql, true | sqlite, true => "1"
  | mysql, false | sqlite, false => "0"
  | postgres, true => "true"
  | postgres, false => "false"

/-- The word that opens a statement. -/
def keyword (d : Dialect) (command : Command) : String :=
  match command, d with
  | .select, _ => "SELECT"
  | .upsert, postgres => "INSERT"
  | .upsert, _ => "REPLACE"
  | .delete, _ => "DELETE"

/-- A value as a literal. -/
def literal (d : Dialect) : Value → String
  | .null => "NULL"
  | .bool b => d.boolean b
  | .int n => toString n
  | .float x => Decimal.Layout.plain.write x
  | .str s => d.quoteText s
  | .date t => d.quoteText t.display

end Polyquery.Dialect
