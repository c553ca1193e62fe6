import Polyquery.Proofs.Fields
import Polyquery.Schema

/-!
# Schemas from two sources

The rows of a catalogue and the mappings of a cluster are brought into one tree.  Of
catalogue rows the last one for a column counts, so that rows of different columns may come
in any order.  The mappings of a cluster come in the order of the tree, and build it from
left to right.
-/

namespace Polyquery

namespace Schema

variable {schema : Schema} {database table column type : String} {rows : List Row} {row : Row}

/-! ## Trees -/

/-- At every level the names are strictly increasing. -/
def Sorted (schema : Schema) : Prop :=
  schema.databases.Each fun tables : Tables => tables.Each Fields.Sorted

/-- Every database has a table and every table has a column. -/
def Filled (schema : Schema) : Prop :=
  ∀ database ∈ schema.databases, database.2 ≠ [] ∧ ∀ table ∈ database.2, table.2 ≠ []

instance (schema : Schema) : Decidable schema.Sorted :=
  inferInstanceAs (Decidable (Fields.Each (Fields.Each Fields.Sorted) schema.databases))

instance (schema : Schema) : Decidable schema.Filled :=
  inferInstanceAs (Decidable (∀ database ∈ schema.databases, _ ∧ _))

/-- A table has columns, in order. -/
def FullTable (columns : Columns) : Prop :=
  columns ≠ [] ∧ Fields.Sorted columns

/-- A database has tables, in order, and each of them has columns. -/
def FullDatabase (tables : Tables) : Prop :=
  tables ≠ [] ∧ tables.Each FullTable

/-- A tree in order without empty tables and databases. -/
def Full (schema : Schema) : Prop :=
  schema.databases.Each FullDatabase

theorem full_of_sorted (sorted : schema.Sorted) (filled : schema.Filled) : schema.Full := by
  refine ⟨sorted.1, fun database mem => ⟨(filled database mem).1, (sorted.2 database mem).1, ?_⟩⟩
  intro table inside
  exact ⟨(filled database mem).2 table inside, (sorted.2 database mem).2 table inside⟩

/-- The type of a column among the tables of a database. -/
def typeIn? (tables : Tables) (place : String × String) : Option String :=
  (Fields.find? place.1 tables).bind (Fields.find? place.2)

theorem columnType?_eq_bind (schema : Schema) (database table column : String) :
    schema.columnType? database table column =
      (Fields.find? database schema.databases).bind (typeIn? · (table, column)) := by
  rw [columnType?, columns, tables]
  cases Fields.find? database schema.databases with
  | none => rfl
  | some tables =>
      rw [Option.getD_some, Option.bind_some, typeIn?]
      cases Fields.find? table tables <;> rfl

theorem FullTable.exists_find? {columns : Columns} (full : FullTable columns) :
    ∃ column, Fields.find? column columns ≠ none := by
  obtain ⟨entry, mem⟩ := List.exists_mem_of_ne_nil columns full.1
  exact ⟨entry.1, fun none => Fields.find?_eq_none_iff.mp none entry mem rfl⟩

theorem FullDatabase.exists_typeIn? {tables : Tables} (full : FullDatabase tables) :
    ∃ place, typeIn? tables place ≠ none := by
  obtain ⟨entry, mem⟩ := List.exists_mem_of_ne_nil tables full.1
  obtain ⟨column, found⟩ := (full.2.2 entry mem).exists_find?
  refine ⟨(entry.1, column), ?_⟩
  rw [typeIn?, (Fields.find?_eq_some_iff full.2.1).mpr mem]
  exact found

/-- A tree in order without empty tables and databases is known by its columns. -/
theorem Full.ext {first second : Schema} (full : first.Full) (full' : second.Full)
    (same : ∀ database table column,
      first.columnType? database table column = second.columnType? database table column) :
    first = second := by
  have tablesEq (a b : Tables) (full : FullDatabase a) (full' : FullDatabase b)
      (same : ∀ place, typeIn? a place = typeIn? b place) : a = b := by
    refine Fields.Each.ext (fun columns column => Fields.find? column columns)
      (fun a b full full' => Fields.ext_find? full.2 full'.2) (fun a full => full.exists_find?)
      full.2 full'.2 fun table column => same (table, column)
  obtain ⟨databases⟩ := first
  obtain ⟨databases'⟩ := second
  refine congrArg Schema.mk <| Fields.Each.ext typeIn? tablesEq
    (fun a full => full.exists_typeIn?) full full' fun database place => ?_
  have alike := same database place.1 place.2
  rwa [columnType?_eq_bind, columnType?_eq_bind] at alike

/-! ## Adding columns -/

theorem Full.addColumn (full : schema.Full) (database table column type : String) :
    (schema.addColumn database table column type).Full := by
  have addTo (tables : Tables) (each : tables.Each FullTable) :
      FullDatabase (Fields.alter table [] (Fields.set column type) tables) := by
    refine ⟨Fields.set_ne_nil _ _ _, each.alter ?_ ?_⟩
    · exact ⟨nofun, List.pairwise_singleton _ _⟩
    · exact fun columns full => ⟨Fields.set_ne_nil _ _ _, Fields.sorted_set _ _ full.2⟩
  refine Fields.Each.alter full ?_ fun tables full => addTo tables full.2
  exact addTo [] ⟨List.Pairwise.nil, nofun⟩

theorem columnType?_addColumn (schema : Schema) (database table column type : String)
    (database' table' column' : String) :
    (schema.addColumn database table column type).columnType? database' table' column' =
      if database' = database ∧ table' = table ∧ column' = column then some type
      else schema.columnType? database' table' column' := by
  have tablesEq : (schema.addColumn database table column type).tables database' =
      if database' = database then
        Fields.alter table [] (Fields.set column type) (schema.tables database)
      else schema.tables database' :=
    Fields.find?_alter _ _ _ _ _
  rw [columnType?, columns, tablesEq]
  by_cases sameDatabase : database' = database
  · rw [if_pos sameDatabase, Fields.find?_alter]
    by_cases sameTable : table' = table
    · rw [if_pos sameTable, Fields.find?_set, sameDatabase, sameTable]
      simp only [true_and]
      rfl
    · rw [if_neg sameTable, if_neg fun same => sameTable same.2.1, sameDatabase]
      rfl
  · rw [if_neg sameDatabase, if_neg fun same => sameDatabase same.1]
    rfl

/-! ## Catalogues -/

/-- A column with its type, and where it stands. -/
structure Entry where
  database : String
  table : String
  column : String
  type : String
deriving DecidableEq

/-- The columns of a schema, in order. -/
def entries (schema : Schema) : List Entry :=
  schema.databases.flatMap fun database => database.2.flatMap fun table =>
    table.2.map fun column => ⟨database.1, table.1, column.1, column.2⟩

/-- A row of a catalogue has the four fields of a column, as text. -/
structure Entry.Describes (entry : Entry) (row : Row) : Prop where
  database : Fields.find? "table_schema" row = some (.str entry.database)
  table : Fields.find? "table_name" row = some (.str entry.table)
  column : Fields.find? "column_name" row = some (.str entry.column)
  type : Fields.find? "data_type" row = some (.str entry.type)

/-- One of the four fields of a column is missing in a row or is no text. -/
def Incomplete (row : Row) : Prop :=
  ∃ name ∈ ["table_schema", "table_name", "column_name", "data_type"],
    ∀ text, Fields.find? name row ≠ some (.str text)

theorem mem_entries_iff (sorted : schema.Sorted) :
    ⟨database, table, column, type⟩ ∈ schema.entries ↔
      schema.columnType? database table column = some type := by
  simp only [entries, List.mem_flatMap, List.mem_map, columnType?_eq_bind, typeIn?,
    Option.bind_eq_some_iff, Prod.exists]
  constructor
  · rintro ⟨_, tables, inSchema, _, columns, inTables, _, _, inColumns, same⟩
    cases same
    have inOrder := sorted.2 _ inSchema
    refine ⟨tables, (Fields.find?_eq_some_iff sorted.1).mpr inSchema, columns,
      (Fields.find?_eq_some_iff inOrder.1).mpr inTables, ?_⟩
    exact (Fields.find?_eq_some_iff (inOrder.2 _ inTables)).mpr inColumns
  · rintro ⟨tables, foundDatabase, columns, foundTable, foundColumn⟩
    exact ⟨database, tables, Fields.mem_of_find?_eq_some foundDatabase, table, columns,
      Fields.mem_of_find?_eq_some foundTable, column, type,
      Fields.mem_of_find?_eq_some foundColumn, rfl⟩

theorem asString?_eq_some_iff {value : Json} {text : String} :
    value.asString? = some text ↔ value = .str text := by
  cases value <;> simp [Json.asString?]

theorem catalogueEntry?_eq_some_iff : catalogueEntry? row = some (database, table, column, type) ↔
    Entry.Describes ⟨database, table, column, type⟩ row := by
  have field (name text : String) : (Fields.find? name row).bind Json.asString? = some text ↔
      Fields.find? name row = some (.str text) := by
    simp [Option.bind_eq_some_iff, asString?_eq_some_iff]
  simp only [Option.bind_eq_bind, Option.bind_eq_some_iff, Option.some.injEq, Prod.mk.injEq,
    catalogueEntry?, field]
  constructor
  · rintro ⟨_, inDatabase, _, inTable, _, named, _, typed, rfl, rfl, rfl, rfl⟩
    exact ⟨inDatabase, inTable, named, typed⟩
  · rintro ⟨inDatabase, inTable, named, typed⟩
    exact ⟨_, inDatabase, _, inTable, _, named, _, typed, rfl, rfl, rfl, rfl⟩

theorem Incomplete.not_describes (incomplete : Incomplete row) (entry : Entry) :
    ¬ entry.Describes row := by
  rintro ⟨inDatabase, inTable, named, typed⟩
  obtain ⟨name, mem, missing⟩ := incomplete
  simp only [List.mem_cons, List.not_mem_nil, or_false] at mem
  rcases mem with rfl | rfl | rfl | rfl
  · exact missing _ inDatabase
  · exact missing _ inTable
  · exact missing _ named
  · exact missing _ typed

/-- The type that a row tells of a column. -/
def tells? (database table column : String) (row : Row) : Option String := do
  let (database', table', column', type) ← catalogueEntry? row
  if database' = database ∧ table' = table ∧ column' = column then some type else none

theorem tells?_eq_some_iff : tells? database table column row = some type ↔
    Entry.Describes ⟨database, table, column, type⟩ row := by
  rw [← catalogueEntry?_eq_some_iff, tells?]
  cases catalogueEntry? row with
  | none => simp
  | some entry =>
      obtain ⟨database', table', column', type'⟩ := entry
      simp only [Option.bind_eq_bind, Option.bind_some]
      split_ifs <;> simp_all

/-- Of the rows for a column the last one counts. -/
theorem columnType?_foldl (schema : Schema) (database table column : String) (rows : List Row) :
    (rows.foldl addCatalogueRow schema).columnType? database table column =
      (rows.filterMap (tells? database table column)).getLast?.or
        (schema.columnType? database table column) := by
  induction rows generalizing schema with
  | nil => rfl
  | cons row rest ih =>
      rw [List.foldl_cons, ih, addCatalogueRow]
      cases found : catalogueEntry? row with
      | none =>
          have silent : tells? database table column row = none := by
            rw [tells?, found]
            rfl
          rw [List.filterMap_cons_none silent]
      | some entry =>
          obtain ⟨database', table', column', type⟩ := entry
          rw [columnType?_addColumn]
          by_cases same : database = database' ∧ table = table' ∧ column = column'
          · obtain ⟨rfl, rfl, rfl⟩ := same
            have tells : tells? database table column row = some type :=
              tells?_eq_some_iff.mpr (catalogueEntry?_eq_some_iff.mp found)
            rw [List.filterMap_cons_some tells, List.getLast?_cons, if_pos ⟨rfl, rfl, rfl⟩]
            cases (rest.filterMap (tells? database table column)).getLast? <;> rfl
          · have silent : tells? database table column row = none := by
              rw [tells?, found]
              exact if_neg fun alike => same ⟨alike.1.symm, alike.2.1.symm, alike.2.2.symm⟩
            rw [List.filterMap_cons_none silent, if_neg same]

theorem Full.foldl (full : schema.Full) (rows : List Row) :
    (rows.foldl addCatalogueRow schema).Full := by
  induction rows generalizing schema with
  | nil => exact full
  | cons row rest ih =>
      refine ih ?_
      rw [addCatalogueRow]
      split
      · exact full.addColumn _ _ _ _
      · exact full

theorem Entry.Describes.eq {entry other : Entry} (describes : entry.Describes row)
    (describes' : other.Describes row) : entry = other := by
  obtain ⟨database, table, column, type⟩ := entry
  obtain ⟨database', table', column', type'⟩ := other
  have same := (catalogueEntry?_eq_some_iff.mpr describes).symm.trans
    (catalogueEntry?_eq_some_iff.mpr describes')
  cases same
  rfl

/-- The rows of a catalogue may come in any order, one for each column, and with any
incomplete rows among them. -/
theorem ofCatalogue_eq (sorted : schema.Sorted) (filled : schema.Filled) {rowOf : Entry → Row}
    {others : List Row} (describes : ∀ entry ∈ schema.entries, entry.Describes (rowOf entry))
    (incomplete : ∀ row ∈ others, Incomplete row)
    (perm : rows.Perm (schema.entries.map rowOf ++ others)) : ofCatalogue rows = schema := by
  refine Full.ext (Full.foldl ⟨List.Pairwise.nil, nofun⟩ rows) (full_of_sorted sorted filled) ?_
  intro database table column
  have told (type : String) : type ∈ rows.filterMap (tells? database table column) ↔
      schema.columnType? database table column = some type := by
    simp only [List.mem_filterMap, tells?_eq_some_iff, perm.mem_iff, List.mem_append,
      List.mem_map, ← mem_entries_iff sorted]
    constructor
    · rintro ⟨row, ⟨entry, mem, rfl⟩ | other, tells⟩
      · exact (describes entry mem).eq tells ▸ mem
      · exact absurd tells ((incomplete row other).not_describes _)
    · intro mem
      exact ⟨_, .inl ⟨_, mem, rfl⟩, describes _ mem⟩
  rw [ofCatalogue, columnType?_foldl]
  cases last : (rows.filterMap (tells? database table column)).getLast? with
  | some type => exact ((told type).mp (List.mem_of_getLast? last)).symm
  | none =>
      refine (Option.eq_none_iff_forall_ne_some.mpr fun type found => ?_).symm
      have mem := (told type).mpr found
      rw [List.getLast?_eq_none_iff.mp last] at mem
      cases mem

/-! ## Mappings -/

/-- Change the tables of a database. -/
def change (database : String) (f : Tables → Tables) (schema : Schema) : Schema :=
  ⟨Fields.alter database [] f schema.databases⟩

theorem foldl_change {α : Type} (f : Tables → Tables) (g : α → Tables → Tables) (items : List α)
    (schema : Schema) :
    items.foldl (fun schema item => schema.change database (g item)) (schema.change database f) =
      schema.change database fun tables =>
        items.foldl (fun tables item => g item tables) (f tables) :=
  (List.foldl_hom Schema.mk fun _ _ => rfl).trans <|
    congrArg Schema.mk (Fields.foldl_alter database [] f g items schema.databases)

/-- Add mapped fields to the columns of a table. -/
def withProperties (properties : List (String × Json)) (columns : Columns) : Columns :=
  properties.foldl (fun columns mapped => Fields.set mapped.1 (mappedType mapped.2) columns) columns

/-- Add what a type maps to the columns of a table. -/
def withType (body : Json) : Columns → Columns :=
  match (body.field? "properties").bind Json.asObject? with
  | some properties => withProperties properties
  | none => id

/-- Add the mappings of an index to the tables of a database. -/
def withMappings (mappings : List (String × Json)) : Tables → Tables :=
  match (Fields.find? "properties" mappings).bind Json.asObject? with
  | some properties => Fields.alter typelessTable [] (withProperties properties)
  | none => fun tables => mappings.foldl
      (fun tables mapped => Fields.alter mapped.1 [] (withType mapped.2) tables) tables

/-- Add an index to the tables of a database. -/
def withIndex (body : Json) : Tables → Tables :=
  match (body.field? "mappings").bind Json.asObject? with
  | some mappings => withMappings mappings
  | none => id

theorem addProperties_eq (index table : String) (properties : List (String × Json))
    (schema : Schema) : schema.addProperties index table properties =
      schema.change index (Fields.alter table [] (withProperties properties)) := by
  refine (foldl_change (Fields.alter table [] id) _ properties schema).trans ?_
  exact congrArg (schema.change index) <| funext fun tables =>
    Fields.foldl_alter table [] id _ properties tables

/-- Whatever is mapped in an index changes one database. -/
theorem addIndex_eq (schema : Schema) (index : String × Json) :
    schema.addIndex index = schema.change index.1 (withIndex index.2) := by
  have named (table : String) (properties : List (String × Json)) :
      (schema.addDatabase index.1).addProperties index.1 table properties =
        schema.change index.1 (Fields.alter table [] (withProperties properties)) := by
    rw [addProperties_eq]
    exact congrArg Schema.mk (Fields.alter_alter index.1 [] id _ schema.databases)
  have typed (schema : Schema) (entry : String × Json) :
      (match (entry.2.field? "properties").bind Json.asObject? with
        | some properties => schema.addProperties index.1 entry.1 properties
        | none => schema.addTable index.1 entry.1) =
      schema.change index.1 (Fields.alter entry.1 [] (withType entry.2)) := by
    unfold withType
    cases (entry.2.field? "properties").bind Json.asObject? with
    | some properties => exact addProperties_eq _ _ _ _
    | none => rfl
  rw [addIndex, withIndex]
  cases (index.2.field? "mappings").bind Json.asObject? with
  | none => rfl
  | some mappings =>
      change (schema.addDatabase index.1).addMappings index.1 mappings =
        schema.change index.1 (withMappings mappings)
      rw [addMappings, withMappings]
      cases (Fields.find? "properties" mappings).bind Json.asObject? with
      | some properties => exact named typelessTable properties
      | none =>
          exact (congrArg (mappings.foldl · (schema.addDatabase index.1))
            (funext fun schema => funext (typed schema))).trans (foldl_change id _ mappings schema)

/-- Indices in order become databases, each by itself. -/
theorem ofMappings_obj {indices : Fields Json} (sorted : indices.Sorted) :
    ofMappings (.obj indices) = ⟨Fields.mapValues (fun body => withIndex body []) indices⟩ := by
  have alone : ofMappings (.obj indices) =
      indices.foldl (fun schema index => schema.change index.1 (withIndex index.2)) empty :=
    congrArg (indices.foldl · empty) (funext fun schema => funext (addIndex_eq schema))
  rw [alone]
  refine (List.foldl_hom Schema.mk fun _ _ => rfl).trans (congrArg Schema.mk ?_)
  exact Fields.foldl_alter_eq_mapValues withIndex [] sorted

/-- The columns of a table as mapped fields. -/
def mappedColumns (columns : Columns) : Json :=
  .obj [("properties", .obj (Fields.mapValues columnJson columns))]

/-- The mappings of a cluster whose indices name their types. -/
def typedMappings (schema : Schema) : Json :=
  .obj (Fields.mapValues
    (fun tables => .obj [("mappings", .obj (Fields.mapValues mappedColumns tables))])
    schema.databases)

/-- The mappings of a cluster whose indices have fields and no types. -/
def typelessMappings (schema : Schema) : Json :=
  .obj (Fields.mapValues
    (fun tables =>
      .obj [("mappings", mappedColumns ((Fields.find? typelessTable tables).getD []))])
    schema.databases)

theorem withProperties_columns {columns : Columns} (sorted : Fields.Sorted columns) :
    withProperties (Fields.mapValues columnJson columns) [] = columns := by
  rw [withProperties, Fields.mapValues, List.foldl_map]
  exact Fields.ofList_eq_self sorted

theorem ofMappings_typed (sorted : schema.Sorted)
    (apart : ∀ database ∈ schema.databases, ∀ table ∈ database.2, table.1 ≠ "properties") :
    ofMappings schema.typedMappings = schema := by
  rw [typedMappings, ofMappings_obj (Fields.sorted_mapValues sorted.1), Fields.mapValues_mapValues]
  refine congrArg Schema.mk (Fields.mapValues_eq_self fun database mem => ?_)
  have inOrder := sorted.2 database mem
  have typed : Fields.find? "properties" (Fields.mapValues mappedColumns database.2) = none := by
    rw [Fields.find?_mapValues, Fields.find?_eq_none_iff.mpr (apart database mem)]
    rfl
  change withMappings (Fields.mapValues mappedColumns database.2) [] = database.2
  rw [withMappings, typed]
  refine (Fields.foldl_alter_eq_mapValues withType [] (Fields.sorted_mapValues inOrder.1)).trans ?_
  rw [Fields.mapValues_mapValues]
  exact Fields.mapValues_eq_self fun table inside => withProperties_columns (inOrder.2 table inside)

theorem ofMappings_typeless (sorted : schema.Sorted)
    (only : ∀ database ∈ schema.databases, database.2.map Prod.fst = ["_doc"]) :
    ofMappings schema.typelessMappings = schema := by
  rw [typelessMappings, ofMappings_obj (Fields.sorted_mapValues sorted.1),
    Fields.mapValues_mapValues]
  refine congrArg Schema.mk (Fields.mapValues_eq_self fun database mem => ?_)
  obtain ⟨⟨name, columns⟩, tables, named⟩ := List.map_eq_singleton_iff.mp (only database mem)
  have inOrder := (sorted.2 database mem).2 (name, columns) (by simp [tables])
  rw [tables, ← show "_doc" = name from named.symm]
  change [("_doc", withProperties (Fields.mapValues columnJson columns) [])] = _
  rw [withProperties_columns inOrder]

/-! ## One schema from all sources -/

/-- A schema without empty databases and tables comes back from the rows of a catalogue, one
for each column, in any order and among incomplete rows.  It comes back from the mappings of
a cluster that names types, none of which is called `properties`, and from mappings without
types if the typeless table is the only one of every database. -/
theorem sources_agree (sorted : schema.Sorted) (filled : schema.Filled)
    (apart : ∀ database ∈ schema.databases, ∀ table ∈ database.2, table.1 ≠ "properties") :
    (∀ (rowOf : Entry → Row) (others rows : List Row),
      (∀ entry ∈ schema.entries, entry.Describes (rowOf entry)) →
      (∀ row ∈ others, Incomplete row) → rows.Perm (schema.entries.map rowOf ++ others) →
      ofCatalogue rows = schema) ∧
    ofMappings schema.typedMappings = schema ∧
    ((∀ database ∈ schema.databases, database.2.map Prod.fst = ["_doc"]) →
      ofMappings schema.typelessMappings = schema) := by
  refine ⟨fun rowOf others rows describes incomplete perm => ?_, ?_, fun only => ?_⟩
  · exact ofCatalogue_eq sorted filled describes incomplete perm
  · exact ofMappings_typed sorted apart
  · exact ofMappings_typeless sorted only

/-- A column called `properties`, and tables of one name in two databases. -/
def archive : Schema :=
  ⟨[("films", [("_doc", [("properties", "object"), ("title", "text")])]),
    ("reviews", [("_doc", [("stars", "long")])])]⟩

/-- The row of a column, with a field that tells nothing. -/
def Entry.toRow (entry : Entry) : Row :=
  [("column_name", .str entry.column), ("data_type", .str entry.type), ("is_nullable", .str "NO"),
    ("table_name", .str entry.table), ("table_schema", .str entry.database)]

/-- Rows without a name, and with a name that is a number. -/
def strayRows : List Row :=
  [[("column_name", .str "year"), ("data_type", .str "long"), ("table_schema", .str "films")],
    [("column_name", .str "title"), ("data_type", .int 5), ("table_name", .str "_doc"),
      ("table_schema", .str "films")]]

theorem sources_agree_archive :
    archive.Sorted ∧ archive.Filled ∧
    ofCatalogue (strayRows ++ (archive.entries.map Entry.toRow).reverse) = archive ∧
    ofMappings archive.typedMappings = archive ∧
    ofMappings archive.typelessMappings = archive := by
  obtain ⟨fromCatalogue, fromTypes, fromFields⟩ :=
    @sources_agree archive (by decide) (by decide) (by decide)
  refine ⟨by decide, by decide, ?_, fromTypes, fromFields (by decide)⟩
  refine fromCatalogue Entry.toRow strayRows _ (fun entry _ => ⟨rfl, rfl, rfl, rfl⟩) ?_ ?_
  · simp only [strayRows, List.forall_mem_cons, List.not_mem_nil, false_implies, implies_true,
      and_true]
    exact ⟨⟨"table_name", by decide, nofun⟩, "data_type", by decide, nofun⟩
  · exact List.perm_append_comm.trans ((List.reverse_perm _).append_right _)

end Schema

end Polyquery
