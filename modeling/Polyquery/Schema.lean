import Polyquery.Json.Record

/-!
# Schemas

A schema is a tree: databases hold tables, tables hold columns, and a column has
a type.  Rows of a SQL catalogue and the mappings of a cluster are brought into
the same tree, so that the same data looks the same wherever it is stored.
-/

namespace Polyquery

/-- The columns of a table with their types. -/
abbrev Columns := Fields String

/-- The tables of a database with their columns. -/
abbrev Tables := Fields Columns

/-- Databases by name. -/
structure Schema where
  databases : Fields Tables

namespace Schema

/-- The schema without databases. -/
def empty : Schema :=
  ⟨[]⟩

/-- Add a database, which may be there already. -/
def addDatabase (database : String) (schema : Schema) : Schema :=
  ⟨Fields.alter database [] id schema.databases⟩

/-- Add a table, which may be there already. -/
def addTable (database table : String) (schema : Schema) : Schema :=
  ⟨Fields.alter database [] (Fields.alter table [] id) schema.databases⟩

/-- Add a column; a column of the same name gets the new type. -/
def addColumn (database table column type : String) (schema : Schema) : Schema :=
  ⟨Fields.alter database []
    (Fields.alter table [] (Fields.set column type)) schema.databases⟩

/-! ## Looking up -/

def tables (schema : Schema) (database : String) : Tables :=
  (Fields.find? database schema.databases).getD []

def columns (schema : Schema) (database table : String) : Columns :=
  (Fields.find? table (schema.tables database)).getD []

/-- The type of a column. -/
def columnType? (schema : Schema) (database table column : String) : Option String :=
  Fields.find? column (schema.columns database table)

/-! ## From a SQL catalogue -/

/-- A column as a row of a catalogue describes it. -/
def catalogueEntry? (row : Row) : Option (String × String × String × String) := do
  let text (name : String) : Option String := (Fields.find? name row).bind Json.asString?
  some (← text "table_schema", ← text "table_name", ← text "column_name", ← text "data_type")

/-- Add the column that a row of a catalogue describes; a row with a missing
field is left out. -/
def addCatalogueRow (schema : Schema) (row : Row) : Schema :=
  match catalogueEntry? row with
  | some (database, table, column, type) => schema.addColumn database table column type
  | none => schema

/-- The schema that the rows of a catalogue describe. -/
def ofCatalogue (rows : List Row) : Schema :=
  rows.foldl addCatalogueRow empty

/-! ## From the mappings of a cluster -/

/-- The table that stands for an index whose mapping names no types. -/
def typelessTable : String := "_doc"

/-- The type of a mapped field; a field without a type is an object. -/
def mappedType (spec : Json) : String :=
  ((spec.field? "type").bind Json.asString?).getD "object"

/-- Add mapped fields as the columns of a table. -/
def addProperties (index table : String) (properties : List (String × Json)) (schema : Schema) :
    Schema :=
  properties.foldl
    (fun schema property => schema.addColumn index table property.1 (mappedType property.2))
    (schema.addTable index table)

/-- Add the mappings of an index: its fields, or else its types with their
fields. -/
def addMappings (index : String) (mappings : List (String × Json)) (schema : Schema) : Schema :=
  match (Fields.find? "properties" mappings).bind Json.asObject? with
  | some properties => schema.addProperties index typelessTable properties
  | none =>
    mappings.foldl
      (fun schema mapped =>
        match (mapped.2.field? "properties").bind Json.asObject? with
        | some properties => schema.addProperties index mapped.1 properties
        | none => schema.addTable index mapped.1)
      schema

/-- Add an index; it appears even if nothing is mapped. -/
def addIndex (schema : Schema) (index : String × Json) : Schema :=
  let schema := schema.addDatabase index.1
  match (index.2.field? "mappings").bind Json.asObject? with
  | some mappings => schema.addMappings index.1 mappings
  | none => schema

/-- The schema that the mappings of a cluster describe. -/
def ofMappings (tree : Json) : Schema :=
  match tree with
  | .obj indices => indices.foldl addIndex empty
  | _ => empty

/-! ## Restricting and printing -/

/-- The part of a schema that one database holds. -/
def restrict (schema : Schema) (name : String) : Schema :=
  (schema.tables name).foldl
    (fun restricted table =>
      table.2.foldl
        (fun restricted column => restricted.addColumn name table.1 column.1 column.2)
        restricted)
    empty

/-- A column as a JSON object. -/
def columnJson (type : String) : Json :=
  .obj [("type", .str type)]

/-- The tree as JSON. -/
def toJson (schema : Schema) : Json :=
  .obj (Fields.mapValues
    (fun tables => .obj (Fields.mapValues
      (fun columns => .obj (Fields.mapValues columnJson columns)) tables))
    schema.databases)

/-! ## Reading -/

/-- A column that is written as a record of its type. -/
def columnReader : Json.Source.Reader String :=
  Json.Source.record ["type"] fun depth fields =>
    match fields with
    | [type] => Json.Source.required Json.Source.text depth type
    | _ => none

/-- The schema that a value describes. -/
def ofJson? (value : Json) : Option Schema := do
  let entries {α : Type} (read : Json → Option α) (value : Json) : Option (Fields α) := do
    (← value.asObject?).mapM fun entry => do some (entry.1, ← read entry.2)
  let column (value : Json) := columnReader Json.depthLimit (Json.Source.ofJson value)
  some ⟨← entries (entries (entries column)) value⟩

end Schema

end Polyquery
