import Polyquery.Proofs.Schema
import Polyquery.Proofs.Session
import Polyquery.Sqlite.Database

/-!
# One database of a schema

Restricting a schema builds the part that a database holds anew, column by column.  Whatever
has a column comes back, so that restricting a schema of catalogue rows loses nothing.  The
mappings of a cluster also show indices without types and types without fields.  Of an index
with one of these not everything comes back.
-/

namespace Polyquery

namespace Schema

variable {schema : Schema} {name : String}

/-! ## Schemas in order -/

theorem sorted_of_full (full : schema.Full) : schema.Sorted := by
  refine ⟨full.1, fun database mem => ?_⟩
  obtain ⟨-, inOrder, each⟩ := full.2 database mem
  exact ⟨inOrder, fun table inside => (each table inside).2⟩

theorem full_empty : empty.Full :=
  ⟨List.Pairwise.nil, nofun⟩

theorem full_ofCatalogue (rows : List Row) : (ofCatalogue rows).Full :=
  full_empty.foldl rows

theorem sorted_withType (body : Json) {columns : Columns} (sorted : Fields.Sorted columns) :
    Fields.Sorted (withType body columns) := by
  unfold withType
  cases (body.field? "properties").bind Json.asObject? with
  | none => exact sorted
  | some properties =>
      exact List.foldlRecOn properties _ sorted fun _ kept _ _ => Fields.sorted_set _ _ kept

theorem each_withMappings (mappings : List (String × Json)) {tables : Tables}
    (each : tables.Each Fields.Sorted) : (withMappings mappings tables).Each Fields.Sorted := by
  unfold withMappings
  cases (Fields.find? "properties" mappings).bind Json.asObject? with
  | none =>
      refine List.foldlRecOn mappings _ each fun tables kept mapped _ => kept.alter ?_ ?_
      · exact sorted_withType mapped.2 List.Pairwise.nil
      · exact fun columns sorted => sorted_withType mapped.2 sorted
  | some properties =>
      have keeps (columns : Columns) (sorted : Fields.Sorted columns) :
          Fields.Sorted (withProperties properties columns) :=
        List.foldlRecOn properties _ sorted fun _ kept _ _ => Fields.sorted_set _ _ kept
      exact each.alter (keeps [] List.Pairwise.nil) keeps

theorem each_withIndex (body : Json) {tables : Tables} (each : tables.Each Fields.Sorted) :
    (withIndex body tables).Each Fields.Sorted := by
  unfold withIndex
  cases (body.field? "mappings").bind Json.asObject? with
  | none => exact each
  | some mappings => exact each_withMappings mappings each

theorem sorted_addIndex (sorted : schema.Sorted) (index : String × Json) :
    (schema.addIndex index).Sorted := by
  rw [addIndex_eq]
  refine Fields.Each.alter sorted ?_ fun tables each => each_withIndex index.2 each
  exact each_withIndex index.2 ⟨List.Pairwise.nil, nofun⟩

/-- Whatever a cluster answers, the names in its schema are in order. -/
theorem sorted_ofMappings (tree : Json) : (ofMappings tree).Sorted := by
  have start := sorted_of_full full_empty
  unfold ofMappings
  cases tree with
  | obj indices =>
      exact List.foldlRecOn indices _ start fun _ sorted index _ => sorted_addIndex sorted index
  | _ => exact start

/-- SQLite adds the columns of its tables one by one. -/
theorem full_of_sqlite {σ : Type} {engine : Sqlite.Engine σ} {client after : Sqlite.Client σ}
    (told : Session.run engine.schema client = (.ok schema, after)) : schema.Full := by
  obtain ⟨_, _, -, told⟩ := Session.run_bind_eq_ok.mp told
  obtain ⟨_, _, -, told⟩ := Session.run_bind_eq_ok.mp told
  obtain ⟨tables, _, -, told⟩ := Session.run_bind_eq_ok.mp told
  cases told
  refine List.foldlRecOn tables _ full_empty fun _ full table _ => ?_
  exact List.foldlRecOn table.2 _ full fun _ kept column _ => kept.addColumn _ _ _ _

/-! ## Restricting -/

/-- One schema is what another holds in a database: it has this database exactly if the other
has it, with the same tables, columns and types, and no other database. -/
structure IsPart (name : String) (schema part : Schema) : Prop where
  kept : Fields.find? name part.databases = Fields.find? name schema.databases
  others : ∀ other, other ≠ name → Fields.find? other part.databases = none

/-- If there is a database of a name, it has a table and all of its tables have columns. -/
def FilledAt (name : String) (schema : Schema) : Prop :=
  ∀ tables, Fields.find? name schema.databases = some tables →
    tables ≠ [] ∧ ∀ table ∈ tables, table.2 ≠ []

theorem filledAt_of_full (full : schema.Full) (name : String) : schema.FilledAt name := by
  intro tables found
  obtain ⟨filled, -, each⟩ := full.2 _ (Fields.mem_of_find?_eq_some found)
  exact ⟨filled, fun table inside => (each table inside).1⟩

/-- A restricted schema is read from a catalogue that has a row for each column. -/
theorem restrict_eq_ofCatalogue (schema : Schema) (name : String) :
    schema.restrict name =
      ofCatalogue ((entries ⟨[(name, schema.tables name)]⟩).map Entry.toRow) := by
  rw [entries, List.flatMap_singleton, ofCatalogue, List.foldl_map, List.foldl_flatMap]
  simp only [List.foldl_map]
  rfl

/-- A database all of whose tables have columns comes back as it is. -/
theorem restrict_of_filled (sorted : schema.Sorted) {tables : Tables}
    (found : Fields.find? name schema.databases = some tables) (filled : tables ≠ [])
    (each : ∀ table ∈ tables, table.2 ≠ []) : schema.restrict name = ⟨[(name, tables)]⟩ := by
  let alone : Schema := ⟨[(name, tables)]⟩
  have aloneSorted : alone.Sorted := by
    refine ⟨List.pairwise_singleton _ _, ?_⟩
    rw [List.forall_mem_singleton]
    exact sorted.2 _ (Fields.mem_of_find?_eq_some found)
  have aloneFilled : alone.Filled := by
    rw [Filled, List.forall_mem_singleton]
    exact ⟨filled, each⟩
  have perm : (alone.entries.map Entry.toRow).Perm (alone.entries.map Entry.toRow ++ []) := by
    rw [List.append_nil]
  have describes : ∀ entry ∈ alone.entries, entry.Describes entry.toRow :=
    fun entry _ => ⟨rfl, rfl, rfl, rfl⟩
  rw [restrict_eq_ofCatalogue, Schema.tables, found, Option.getD_some]
  exact ofCatalogue_eq aloneSorted aloneFilled describes
    (fun _ mem => absurd mem List.not_mem_nil) perm

theorem restrict_of_missing (missing : Fields.find? name schema.databases = none) :
    schema.restrict name = empty := by
  rw [restrict, tables, missing]
  rfl

/-- What a database holds is kept exactly if it has a table and all of its tables have
columns, or if there is no such database. -/
theorem isPart_restrict_iff (sorted : schema.Sorted) :
    IsPart name schema (schema.restrict name) ↔ schema.FilledAt name := by
  constructor
  · intro isPart tables found
    -- what is read from catalogue rows never has an empty database or table
    have full : (schema.restrict name).Full := by
      rw [restrict_eq_ofCatalogue]
      exact full_ofCatalogue _
    exact filledAt_of_full full name tables (isPart.kept.trans found)
  · intro filledAt
    cases found : Fields.find? name schema.databases with
    | none =>
        rw [restrict_of_missing found]
        exact ⟨found.symm, fun other _ => rfl⟩
    | some tables =>
        obtain ⟨filled, each⟩ := filledAt tables found
        rw [restrict_of_filled sorted found filled each]
        constructor
        · rw [found, Fields.find?, if_pos rfl]
        · intro other different
          rw [Fields.find?, if_neg different.symm, Fields.find?_nil]

/-- Restricting a schema of catalogue rows or of an SQLite database keeps exactly what the
database of the name holds.  Restricting a schema of mappings does so exactly if this
database is missing, or has a table and all of its tables have columns. -/
theorem restrict_keeps_iff (name : String) :
    (∀ rows, IsPart name (ofCatalogue rows) ((ofCatalogue rows).restrict name)) ∧
    (∀ {σ : Type} (engine : Sqlite.Engine σ) client after schema,
      Session.run engine.schema client = (.ok schema, after) →
      IsPart name schema (schema.restrict name)) ∧
    ∀ tree, IsPart name (ofMappings tree) ((ofMappings tree).restrict name) ↔
      ∀ tables, Fields.find? name (ofMappings tree).databases = some tables →
        tables ≠ [] ∧ ∀ table ∈ tables, table.2 ≠ [] := by
  have keeps {schema : Schema} (full : schema.Full) :
      IsPart name schema (schema.restrict name) :=
    (isPart_restrict_iff (sorted_of_full full)).mpr (filledAt_of_full full name)
  refine ⟨fun rows => keeps (full_ofCatalogue rows), ?_, fun tree => ?_⟩
  · intro σ engine client after schema told
    exact keeps (full_of_sqlite told)
  · exact isPart_restrict_iff (sorted_ofMappings tree)

/-- An index without types beside an index of which one type has a field and one has none. -/
def unmapped : Json :=
  .obj [("films", .obj [("mappings", .obj [])]),
    ("reviews", .obj [("mappings", .obj [("draft", .obj []),
      ("review", .obj [("properties", .obj [("stars", .obj [("type", .str "long")])])])])]),
    ("rooms", .obj [("mappings", .obj [("properties", .obj [("seats", .obj [])])])])]

/-- An engine that holds one table. -/
def oneTable : Sqlite.Engine Unit where
  run _ _ state := (.ok [], state)
  tables _ := .ok [("films", [("id", "INTEGER"), ("title", "TEXT")])]

def client : Sqlite.Client Unit := ⟨":memory:", (), false, []⟩

theorem restrict_keeps_iff_rooms :
    (∃ schema, Session.run oneTable.schema client = (.ok schema, client) ∧
      IsPart ":memory:" schema (schema.restrict ":memory:")) ∧
    IsPart "rooms" (ofMappings unmapped) ((ofMappings unmapped).restrict "rooms") := by
  obtain ⟨-, ofSqlite, -⟩ := restrict_keeps_iff ":memory:"
  obtain ⟨-, -, ofCluster⟩ := restrict_keeps_iff "rooms"
  have told : Session.run oneTable.schema client = (.ok _, client) := rfl
  exact ⟨⟨_, told, ofSqlite oneTable client client _ told⟩, (ofCluster unmapped).mpr (by decide)⟩

/-- An index without types does not come back, and neither does a type without fields. -/
theorem not_isPart_unmapped :
    ((ofMappings unmapped).restrict "films").databases = [] ∧
    ((ofMappings unmapped).restrict "reviews").databases =
      [("reviews", [("review", [("stars", "long")])])] ∧
    ¬ ∀ tree name, IsPart name (ofMappings tree) ((ofMappings tree).restrict name) := by
  refine ⟨by decide, by decide, fun always => ?_⟩
  have kept := (always unmapped "films").kept
  exact absurd kept (by decide)

end Schema

end Polyquery
