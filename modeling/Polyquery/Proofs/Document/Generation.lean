import Polyquery.Document.Basic
import Polyquery.Generated
import Polyquery.Proofs.Search.Acceptance
import Polyquery.Proofs.Sql.Upsert

/-!
# Documents that generate

A document describes a query if its names are known and no list of conditions in it is
empty.  Everything that the generators refuse is then ruled out, except what a document can
still ask for in vain: rows without a column, and a cluster for names of its own.
-/

namespace Polyquery

open Result (Succeeds succeeds_bind succeeds_bind_pure succeeds_mapM)

/-! ## Names -/

theorem Command.succeeds_parse {name : String} :
    Succeeds (Command.parse name) ↔ name ∈ ["select", "upsert", "delete"] := by
  rw [Command.parse, Command.ofName?]
  split_ifs <;> simp_all

theorem Command.name_of_parse {name : String} {command : Command}
    (parsed : Command.parse name = .ok command) : name = command.name := by
  rw [Command.parse, Command.ofName?] at parsed
  split_ifs at parsed with select upsert delete
  · cases parsed
    exact select
  · cases parsed
    exact upsert
  · cases parsed
    exact delete

theorem SortOrder.succeeds_parse {name : String} :
    Succeeds (SortOrder.parse name) ↔ name ∈ ["asc", "ascending", "desc", "descending"] := by
  simp only [SortOrder.parse, Bool.or_eq_true, decide_eq_true_eq]
  split_ifs with short long
  · exact iff_of_true (Result.succeeds_ok _) (by rcases short with rfl | rfl <;> simp)
  · exact iff_of_true (Result.succeeds_ok _) (by rcases long with rfl | rfl <;> simp)
  · exact iff_of_false (Result.not_succeeds_error _) (by simp_all)

theorem Table.succeeds_column {table : Table} {column : String} :
    Succeeds (table.column column) ↔ column ∈ table.columns := by
  simp [Succeeds, Table.column_eq_ok_iff]

/-! ## Filters -/

namespace Filter

mutual

/-- The columns that a filter names, at any depth. -/
def names : Filter → List String
  | .all filters => namesOf filters
  | .any filters => namesOf filters
  | .not filter => names filter
  | .compare column _ _ => [column]

/-- The columns that some filters name. -/
def namesOf : List Filter → List String
  | [] => []
  | filter :: rest => names filter ++ namesOf rest

end

mutual

/-- No list of filters in a filter is empty, at any depth. -/
def Filled : Filter → Prop
  | .all filters => filters ≠ [] ∧ EachFilled filters
  | .any filters => filters ≠ [] ∧ EachFilled filters
  | .not filter => Filled filter
  | .compare _ _ _ => True

/-- No list in some filters is empty. -/
def EachFilled : List Filter → Prop
  | [] => True
  | filter :: rest => Filled filter ∧ EachFilled rest

end

variable {table : Table}

theorem succeeds_combine {form : String} {o : Operator} {es : List Expr} :
    Succeeds (combine form o es) ↔ es ≠ [] := by
  cases es with
  | nil => exact iff_of_false (Result.not_succeeds_error _) (not_not_intro rfl)
  | cons first rest => exact iff_of_true (Result.succeeds_ok _) (List.cons_ne_nil _ _)

theorem eq_nil_of_toExprs_eq_ok {filters : List Filter} {es : List Expr}
    (ok : toExprs table filters = .ok es) : es = [] ↔ filters = [] := by
  cases filters with
  | nil =>
      cases ok
      exact iff_of_true rfl rfl
  | cons filter rest =>
      simp only [toExprs, Result.bind_eq_ok, Result.pure_eq_ok] at ok
      obtain ⟨_, -, _, -, rfl⟩ := ok
      exact iff_of_false (List.cons_ne_nil _ _) (List.cons_ne_nil _ _)

/-- Combining some filters succeeds if there are any and each succeeds. -/
theorem succeeds_combine_toExprs (form : String) (o : Operator) (filters : List Filter) :
    Succeeds (do combine form o (← toExprs table filters)) ↔
      Succeeds (toExprs table filters) ∧ filters ≠ [] :=
  succeeds_bind fun _ ok => succeeds_combine.trans (eq_nil_of_toExprs_eq_ok ok).not

mutual

/-- A filter becomes an expression if its names are columns and its lists are not empty. -/
theorem succeeds_toExpr (filter : Filter) :
    Succeeds (toExpr table filter) ↔ names filter ⊆ table.columns ∧ Filled filter := by
  cases filter with
  | all filters =>
      rw [toExpr, succeeds_combine_toExprs, succeeds_toExprs filters, names, Filled, and_assoc,
        and_comm (a := EachFilled filters)]
  | any filters =>
      rw [toExpr, succeeds_combine_toExprs, succeeds_toExprs filters, names, Filled, and_assoc,
        and_comm (a := EachFilled filters)]
  | not inner => rw [toExpr, succeeds_bind_pure, succeeds_toExpr inner, names, Filled]
  | compare column comparison value =>
      rw [toExpr, succeeds_bind_pure, Table.succeeds_column, names, Filled, and_true,
        List.cons_subset, and_iff_left (List.nil_subset _)]

/-- So do the filters of a list. -/
theorem succeeds_toExprs (filters : List Filter) :
    Succeeds (toExprs table filters) ↔ namesOf filters ⊆ table.columns ∧ EachFilled filters := by
  cases filters with
  | nil => simp [toExprs, namesOf, EachFilled]
  | cons filter rest =>
      have more (e : Expr) : Succeeds (do return e :: (← toExprs table rest)) ↔
          Succeeds (toExprs table rest) := succeeds_bind_pure
      rw [toExprs, succeeds_bind fun e _ => more e, succeeds_toExpr filter, succeeds_toExprs rest,
        namesOf, EachFilled, List.append_subset]
      exact and_and_and_comm

end

end Filter

/-! ## Documents -/

namespace QueryDocument

/-- The columns that a document names. -/
def names (document : QueryDocument) : List String :=
  document.columns ++ document.aliases.map AliasSpec.column ++ Filter.namesOf document.filters ++
    document.sorts.map SortSpec.column

/-- The names of a document are known, and no list of filters in it is empty. -/
structure Resolves (document : QueryDocument) : Prop where
  command : document.command ∈ ["select", "upsert", "delete"]
  names : ∀ name ∈ document.names, name ∈ document.table.toTable.columns
  orders : ∀ sort ∈ document.sorts, sort.order ∈ ["asc", "ascending", "desc", "descending"]
  filled : Filter.EachFilled document.filters

variable {document : QueryDocument} {table : Table} {query : Query}

theorem succeeds_selection : Succeeds (document.selection table) ↔
    (∀ name ∈ document.names, name ∈ table.columns) ∧
      (∀ sort ∈ document.sorts, sort.order ∈ ["asc", "ascending", "desc", "descending"]) ∧
        Filter.EachFilled document.filters := by
  have selected : Succeeds (document.columns.mapM table.column) ↔
      ∀ name ∈ document.columns, name ∈ table.columns := by
    simp only [succeeds_mapM, Table.succeeds_column]
  have aliases : Succeeds (document.aliases.mapM fun named => do
      return (named.name, ← table.column named.column)) ↔
      ∀ named ∈ document.aliases, named.column ∈ table.columns := by
    simp only [succeeds_mapM, succeeds_bind_pure, Table.succeeds_column]
  have sorts : Succeeds (document.sorts.mapM fun sort => do
      let e ← table.column sort.column
      return SortKey.mk e (← SortOrder.parse sort.order)) ↔
      ∀ sort ∈ document.sorts, sort.column ∈ table.columns ∧
        sort.order ∈ ["asc", "ascending", "desc", "descending"] := by
    have each (sort : SortSpec) : Succeeds (do
        let e ← table.column sort.column
        return SortKey.mk e (← SortOrder.parse sort.order)) ↔
        sort.column ∈ table.columns ∧ sort.order ∈ ["asc", "ascending", "desc", "descending"] := by
      rw [succeeds_bind fun e _ => succeeds_bind_pure, Table.succeeds_column,
        SortOrder.succeeds_parse]
    simp only [succeeds_mapM, each]
  rw [selection, succeeds_bind fun _ _ => succeeds_bind fun _ _ => succeeds_bind fun _ _ =>
    succeeds_bind_pure, selected, aliases, Filter.succeeds_toExprs, sorts]
  simp only [names, List.forall_mem_append, List.forall_mem_map, forall_and, List.subset_def]
  tauto

/-- The command is put on what is selected. -/
theorem toQuery_eq : document.toQuery = do
    let command ← Command.parse document.command
    let query ← document.selection document.table.toTable
    return match command with
      | .select => query
      | .upsert => query.upsert document.rows
      | .delete => query.delete := by
  rw [toQuery]
  congr 1
  funext command
  cases command <;> rfl

/-- A document describes a query if its command, its names and its sort orders are known
and no list of filters in it is empty. -/
theorem succeeds_toQuery : Succeeds document.toQuery ↔ document.Resolves := by
  rw [toQuery_eq, succeeds_bind fun _ _ => succeeds_bind_pure, Command.succeeds_parse,
    succeeds_selection]
  constructor
  · rintro ⟨command, names, orders, filled⟩
    exact ⟨command, names, orders, filled⟩
  · rintro ⟨command, names, orders, filled⟩
    exact ⟨command, names, orders, filled⟩

end QueryDocument

/-! ## Queries over columns -/

namespace Query

/-- A query whose expressions are columns of its table and conditions over them. -/
structure OverColumns (query : Query) : Prop where
  selected : ∀ e ∈ query.selected, ∃ column, e = .member query.table.name column
  aliases : ∀ named ∈ query.aliases, ∃ column, named.2 = .member query.table.name column
  filters : ∀ e ∈ query.filters, e.IsCondition query.table.name
  sorts : ∀ sort ∈ query.sorts, ∃ column, sort.expr = .member query.table.name column

variable {query : Query}

theorem OverColumns.complete (columns : query.OverColumns) (command : query.command ≠ .upsert) :
    query.Complete where
  command := command
  projected e mem := by
    unfold projected at mem
    split at mem
    · rcases List.mem_append.mp mem with inSelected | inAliases
      · obtain ⟨column, rfl⟩ := columns.selected e inSelected
        exact Expr.complete_member _ column
      · obtain ⟨named, inNamed, rfl⟩ := List.mem_map.mp inAliases
        obtain ⟨column, same⟩ := columns.aliases named inNamed
        rw [same]
        exact Expr.complete_member _ column
    · cases mem
  filters e mem := (columns.filters e mem).complete
  ordered e mem := by
    unfold ordered at mem
    split at mem
    · obtain ⟨sort, inSorts, rfl⟩ := List.mem_map.mp mem
      obtain ⟨column, same⟩ := columns.sorts sort inSorts
      rw [same]
      exact Expr.complete_member _ column
    · cases mem

/-! ### Statements -/

theorem succeeds_statements (d : Dialect) (mode : Mode) :
    Succeeds (query.statements d mode) ↔ Succeeds (query.drafts d) :=
  succeeds_bind_pure

/-- The statements of an upsert can be written if every row has a column of the table. -/
theorem succeeds_upsertDrafts (d : Dialect) : Succeeds (query.upsertDrafts d) ↔
    ∀ row ∈ query.upserts, query.table.presentColumns row ≠ [] := by
  have partition := UpsertRun.IsPartition.partition query.table query.upserts
  rw [upsertDrafts, succeeds_bind_pure, succeeds_mapM]
  constructor
  · intro each row mem none
    obtain ⟨run, inRuns, empty⟩ := partition.exists_columns_eq_nil mem none
    have made := each run inRuns
    rw [run.drafts_eq_error d query.table empty] at made
    exact Result.not_succeeds_error _ made
  · intro present run mem
    rw [run.drafts_eq d query.table (partition.columns_ne_nil present mem)]
    exact Result.succeeds_ok _

end Query

theorem Backend.succeeds_generate {query : Query} (d : Dialect) (mode : Mode) :
    Succeeds (d.backend.generate mode query) ↔ Succeeds (query.statements d mode) := by
  cases d <;> exact succeeds_bind_pure

theorem Backend.succeeds_generate_elastic {query : Query} (mode : Mode) :
    Succeeds (Backend.elastic.generate mode query) ↔ Succeeds (Search.Envelope.ofQuery query) :=
  succeeds_bind_pure

/-! ### Requests -/

namespace Search

variable {query : Query}

/-- Only names for selected columns keep a selection or deletion over columns from a
cluster. -/
theorem succeeds_request (columns : query.OverColumns) :
    Succeeds (Request.ofQuery query) ↔ query.aliases = [] := by
  rw [Request.succeeds_ofQuery_iff]
  refine ⟨Query.IsSearch.aliases, fun none => ⟨none, ?_, ?_, ?_⟩⟩
  · intro e mem
    obtain ⟨column, rfl⟩ := columns.selected e (query.sourced_subset mem)
    exact ⟨column, rfl⟩
  · intro sort mem
    obtain ⟨column, same⟩ := columns.sorts sort mem
    exact ⟨column, by rw [same]; rfl⟩
  · intro e mem
    have condition := columns.filters e mem
    rwa [condition.trimmed_eq_self]

theorem Envelope.succeeds_ofQuery (columns : query.OverColumns) :
    Succeeds (Envelope.ofQuery query) ↔ query.command = .upsert ∨ query.aliases = [] := by
  rw [Envelope.ofQuery]
  cases command : query.command with
  | upsert => exact iff_of_true (Result.succeeds_ok _) (.inl rfl)
  | select | delete =>
      change Succeeds (Request.ofQuery query >>= fun request => pure _) ↔ _
      rw [succeeds_bind_pure, succeeds_request columns]
      simp

end Search

/-! ## What documents generate -/

namespace QueryDocument

variable {document : QueryDocument} {table : Table} {query base : Query}

/-- What a document selects is made of columns and conditions over them. -/
theorem of_selection_eq_ok (ok : document.selection table = .ok base) :
    base.OverColumns ∧ base.table = table ∧ base.command = .select ∧ base.upserts = [] ∧
      (base.aliases = [] ↔ document.aliases = []) := by
  simp only [selection, Result.bind_eq_ok, Result.pure_eq_ok] at ok
  obtain ⟨selected, selectedOk, aliases, aliasesOk, filters, filtersOk, sorts, sortsOk, rfl⟩ := ok
  refine ⟨⟨?_, ?_, ?_, ?_⟩, rfl, rfl, rfl, Result.eq_nil_of_mapM_eq_ok aliasesOk⟩
  · intro e mem
    obtain ⟨column, -, found⟩ := Result.exists_mem_of_mapM_eq_ok selectedOk mem
    exact ⟨column, Filter.member_of_column found⟩
  · intro named mem
    obtain ⟨spec, -, made⟩ := Result.exists_mem_of_mapM_eq_ok aliasesOk mem
    obtain ⟨e, found, whole⟩ := Result.bind_eq_ok.mp made
    cases whole
    exact ⟨spec.column, Filter.member_of_column found⟩
  · exact (Filter.toExprs_mean filtersOk).1
  · intro sort mem
    obtain ⟨spec, -, made⟩ := Result.exists_mem_of_mapM_eq_ok sortsOk mem
    obtain ⟨e, found, rest⟩ := Result.bind_eq_ok.mp made
    obtain ⟨order, -, whole⟩ := Result.bind_eq_ok.mp rest
    cases whole
    exact ⟨spec.column, Filter.member_of_column found⟩

/-- The query of a document is made of columns and conditions over them, and stores the
rows of the document if it stores any. -/
theorem of_toQuery_eq_ok (ok : document.toQuery = .ok query) :
    query.OverColumns ∧ query.table = document.table.toTable ∧
      document.command = query.command.name ∧ (query.aliases = [] ↔ document.aliases = []) ∧
        (query.command = .upsert → query.upserts = document.rows) := by
  rw [toQuery_eq] at ok
  obtain ⟨command, parsed, rest⟩ := Result.bind_eq_ok.mp ok
  obtain ⟨base, selectionOk, whole⟩ := Result.bind_eq_ok.mp rest
  obtain ⟨columns, sameTable, isSelect, stores, aliases⟩ := of_selection_eq_ok selectionOk
  rw [Command.name_of_parse parsed]
  cases command with
  | select =>
      cases whole
      refine ⟨columns, sameTable, by rw [isSelect], aliases, fun upsert => ?_⟩
      rw [isSelect] at upsert
      cases upsert
  | upsert =>
      cases whole
      refine ⟨⟨columns.selected, columns.aliases, columns.filters, columns.sorts⟩, sameTable, rfl,
        aliases, fun _ => ?_⟩
      rw [Query.upsert, stores, List.nil_append]
  | delete =>
      cases whole
      exact ⟨⟨columns.selected, columns.aliases, columns.filters, columns.sorts⟩, sameTable, rfl,
        aliases, nofun⟩

/-- A document that describes a selection or deletion generates in SQL, and for a cluster
if it names no selected column anew. -/
theorem generates_of_ne_upsert (ok : document.toQuery = .ok query)
    (command : document.command ≠ "upsert") :
    (∀ (d : Dialect) (mode : Mode), Succeeds (d.backend.generate mode query)) ∧
      ∀ mode, Succeeds (Backend.elastic.generate mode query) ↔ document.aliases = [] := by
  obtain ⟨columns, -, named, aliases, -⟩ := of_toQuery_eq_ok ok
  have notUpsert : query.command ≠ .upsert := by
    intro upsert
    rw [named, upsert] at command
    exact command rfl
  constructor
  · intro d mode
    rw [Backend.succeeds_generate, (columns.complete notUpsert).statements_eq mode]
    exact Result.succeeds_ok _
  · intro mode
    rw [Backend.succeeds_generate_elastic, Search.Envelope.succeeds_ofQuery columns, aliases]
    exact or_iff_right notUpsert

/-- A document that describes an upsert generates for a cluster, and in SQL if every row has
a column of the table. -/
theorem generates_of_eq_upsert (ok : document.toQuery = .ok query)
    (command : document.command = "upsert") :
    (∀ (d : Dialect) (mode : Mode), Succeeds (d.backend.generate mode query) ↔
      ∀ row ∈ document.rows, document.table.toTable.presentColumns row ≠ []) ∧
      ∀ mode, Succeeds (Backend.elastic.generate mode query) := by
  obtain ⟨columns, sameTable, named, -, stores⟩ := of_toQuery_eq_ok ok
  have upsert : query.command = .upsert := by
    rw [named] at command
    cases same : query.command with
    | upsert => rfl
    | select | delete =>
        rw [same] at command
        exact absurd command (by decide)
  constructor
  · intro d mode
    rw [Backend.succeeds_generate, Query.succeeds_statements, Query.drafts, upsert,
      ← stores upsert, ← sameTable]
    exact Query.succeeds_upsertDrafts d
  · intro mode
    rw [Backend.succeeds_generate_elastic, Search.Envelope.succeeds_ofQuery columns]
    exact .inl upsert

/-- A document describes a query exactly if its names are known and no list in it is
empty.  The query is then written for every kind of database, except that rows without a
column of the table keep an upsert from SQL, and names for selected columns a selection or
deletion from a cluster. -/
theorem generates_iff (document : QueryDocument) :
    (Succeeds document.toQuery ↔ document.Resolves) ∧
    ∀ query, document.toQuery = .ok query →
      (document.command ≠ "upsert" →
        (∀ (d : Dialect) (mode : Mode), Succeeds (d.backend.generate mode query)) ∧
        ∀ mode, Succeeds (Backend.elastic.generate mode query) ↔ document.aliases = []) ∧
      (document.command = "upsert" →
        (∀ (d : Dialect) (mode : Mode), Succeeds (d.backend.generate mode query) ↔
          ∀ row ∈ document.rows, document.table.toTable.presentColumns row ≠ []) ∧
        ∀ mode, Succeeds (Backend.elastic.generate mode query)) := by
  refine ⟨succeeds_toQuery, fun query ok => ⟨?_, ?_⟩⟩
  · exact generates_of_ne_upsert ok
  · exact generates_of_eq_upsert ok

/-- A selection of films with a name for a column. -/
def listing : QueryDocument where
  table := ⟨"films", none, ["id"], ["title", "year"], none, none⟩
  command := "select"
  columns := ["title"]
  aliases := [⟨"made", "year"⟩]
  filters := [.any [.compare "year" .ge (.nat 1960), .not (.compare "title" .isNull .null)]]
  sorts := [⟨"year", "descending"⟩]
  take := 10
  skip := 0
  rows := []

/-- An upsert of films, one of which has nothing but a note. -/
def storing : QueryDocument where
  table := ⟨"films", none, ["id"], ["title", "year"], none, none⟩
  command := "upsert"
  columns := []
  aliases := [⟨"made", "year"⟩]
  filters := []
  sorts := []
  take := 0
  skip := 0
  rows := [[("title", .str "Frenzy")], [("note", .str "Topaz")]]

theorem generates_listing :
    (∃ query, listing.toQuery = .ok query ∧
      Succeeds (Backend.postgres.generate .inline query) ∧
      ¬ Succeeds (Backend.elastic.generate .placeholders query)) ∧
    ∃ query, storing.toQuery = .ok query ∧
      ¬ Succeeds (Backend.sqlite.generate .placeholders query) ∧
      Succeeds (Backend.elastic.generate .placeholders query) := by
  obtain ⟨describes, selects⟩ := generates_iff listing
  obtain ⟨query, ok⟩ := describes.mpr
    ⟨by decide, by decide, by decide, by simp [listing, Filter.EachFilled, Filter.Filled]⟩
  obtain ⟨ofSelect, -⟩ := selects query ok
  obtain ⟨sql, cluster⟩ := ofSelect (by decide)
  obtain ⟨describes, upserts⟩ := generates_iff storing
  obtain ⟨upsert, okUpsert⟩ := describes.mpr ⟨by decide, by decide, by decide, trivial⟩
  obtain ⟨-, ofUpsert⟩ := upserts upsert okUpsert
  obtain ⟨sqlUpsert, clusterUpsert⟩ := ofUpsert rfl
  refine ⟨⟨query, ok, sql .postgres .inline, ?_⟩, upsert, okUpsert, ?_, clusterUpsert .placeholders⟩
  · exact mt (cluster .placeholders).mp (by decide)
  · exact mt (sqlUpsert .sqlite .placeholders).mp (by decide)

end QueryDocument

end Polyquery
