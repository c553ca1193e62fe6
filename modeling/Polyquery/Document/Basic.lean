import Polyquery.Document.Filter
import Polyquery.Query

/-!
# Query documents

A query document is a record in JSON that describes a table and one query
against it by names.  Turning it into a query resolves the names.
-/

namespace Polyquery

open Json (Source)
open Json.Source (Reader)

/-- A table as a document describes it. -/
structure TableSpec where
  name : String
  database : Option String
  primaryKeys : List String
  columns : List String
  delimiter : Option String
  mapping : Option Json

namespace TableSpec

def reader : Reader TableSpec :=
  Source.record ["name", "database", "primary_keys", "columns", "delimiter", "mapping"]
    fun depth fields => do
      match fields with
      | [name, database, primaryKeys, columns, delimiter, mapping] =>
        some {
          name := ← Source.required Source.text depth name
          database := ← Source.fieldOr none (Source.nullable Source.text) depth database
          primaryKeys := ← Source.fieldOr [] (Source.list Source.text) depth primaryKeys
          columns := ← Source.fieldOr [] (Source.list Source.text) depth columns
          delimiter := ← Source.fieldOr none (Source.nullable Source.text) depth delimiter
          mapping := ← Source.fieldOr none (Source.nullable Source.any) depth mapping }
      | _ => none

/-- The table that is described. -/
def toTable (spec : TableSpec) : Table :=
  let table := Table.ofColumns spec.name spec.primaryKeys spec.columns
  { table with
    database := spec.database.getD table.database
    delimiter := spec.delimiter.getD table.delimiter
    mapping := spec.mapping }

end TableSpec

/-- An expression that gets a name. -/
structure AliasSpec where
  name : String
  column : String

def AliasSpec.reader : Reader AliasSpec :=
  Source.record ["name", "column"] fun depth fields => do
    match fields with
    | [name, column] =>
      some {
        name := ← Source.required Source.text depth name
        column := ← Source.required Source.text depth column }
    | _ => none

/-- A column to sort by. -/
structure SortSpec where
  column : String
  order : String

def SortSpec.reader : Reader SortSpec :=
  Source.record ["column", "order"] fun depth fields => do
    match fields with
    | [column, order] =>
      some {
        column := ← Source.required Source.text depth column
        order := ← Source.fieldOr SortOrder.asc.name Source.text depth order }
    | _ => none

/-- A query as a document describes it. -/
structure QueryDocument where
  table : TableSpec
  command : String
  columns : List String
  aliases : List AliasSpec
  filters : List Filter
  sorts : List SortSpec
  take : Nat
  skip : Nat
  rows : List Row

namespace QueryDocument

/-- The largest number of rows that can be asked for. -/
def largestCount : Nat := 18446744073709551615

def reader : Reader QueryDocument :=
  Source.record
    ["table", "command", "columns", "aliases", "filters", "sorts", "take", "skip", "rows"]
    fun depth fields => do
      match fields with
      | [table, command, columns, aliases, filters, sorts, take, skip, rows] =>
        some {
          table := ← Source.required TableSpec.reader depth table
          command := ← Source.fieldOr Command.select.name Source.text depth command
          columns := ← Source.fieldOr [] (Source.list Source.text) depth columns
          aliases := ← Source.fieldOr [] (Source.list AliasSpec.reader) depth aliases
          filters := ← Source.fieldOr [] (Source.list Filter.reader) depth filters
          sorts := ← Source.fieldOr [] (Source.list SortSpec.reader) depth sorts
          take := ← Source.fieldOr 0 (Source.natUpTo largestCount) depth take
          skip := ← Source.fieldOr 0 (Source.natUpTo largestCount) depth skip
          rows := ← Source.fieldOr [] (Source.list Source.entries) depth rows }
      | _ => none

/-- The document that a text holds. -/
def ofText? (text : String) : Option QueryDocument := do
  reader Json.depthLimit (← Source.ofText? text)

/-- The document that a value describes. -/
def ofJson? (value : Json) : Option QueryDocument :=
  reader Json.depthLimit (Source.ofJson value)

/-- The part of a query that every command has: what is selected, the
conditions, the order and the paging. -/
def selection (document : QueryDocument) (table : Table) : Result Query := do
  let selected ← document.columns.mapM table.column
  let aliases ← document.aliases.mapM fun named => do
    return (named.name, ← table.column named.column)
  let filters ← Filter.toExprs table document.filters
  let sorts ← document.sorts.mapM fun sort => do
    let e ← table.column sort.column
    return SortKey.mk e (← SortOrder.parse sort.order)
  return { Query.ofTable table with
    selected := selected
    aliases := aliases
    filters := filters
    sorts := sorts
    take := document.take
    skip := document.skip }

/-- The query that is described. -/
def toQuery (document : QueryDocument) : Result Query := do
  let table := document.table.toTable
  let command ← Command.parse document.command
  let query ← document.selection table
  match command with
  | .select => return query
  | .upsert => return query.upsert document.rows
  | .delete => return query.delete

end QueryDocument

end Polyquery
