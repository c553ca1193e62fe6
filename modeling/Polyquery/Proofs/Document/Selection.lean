import Polyquery.Proofs.Decimal.Whole
import Polyquery.Proofs.Sql.Derivation

/-!
# Selections of documents

A document with a selection describes columns and conditions over them, and the literals
of the conditions are the values that its filters state.  What is generated for MySQL and
SQLite is a statement of their grammar, in which a start of a page may stand without its
length.
-/

namespace Polyquery

open Sql

/-! ## Values of filters -/

namespace Filter

mutual

/-- The values that a filter states, at any depth. -/
def comparands : Filter → List Json
  | .all filters => comparandsOf filters
  | .any filters => comparandsOf filters
  | .not filter => comparands filter
  | .compare _ _ value => [value]

/-- The values that some filters state. -/
def comparandsOf : List Filter → List Json
  | [] => []
  | filter :: rest => comparands filter ++ comparandsOf rest

end

theorem literals_foldl (o : Operator) (first : Expr) (rest : List Expr) :
    (rest.foldl (Expr.binary o) first).literals = (first :: rest).flatMap Expr.literals := by
  induction rest generalizing first with
  | nil => simp
  | cons e rest ih =>
      rw [List.foldl_cons, ih]
      simp [Expr.binary, Expr.literals]

variable {table : Table}

theorem literals_combine {form : String} {o : Operator} {es : List Expr} {e : Expr}
    (combined : combine form o es = .ok e) : e.literals = es.flatMap Expr.literals := by
  cases es with
  | nil => cases combined
  | cons first rest =>
      cases combined
      exact literals_foldl o first rest

mutual

/-- The literals of a condition are values that its filter states. -/
theorem literals_toExpr {filter : Filter} {e : Expr} (ok : toExpr table filter = .ok e) :
    e.literals ⊆ (comparands filter).map Value.ofJson := by
  cases filter with
  | all filters =>
      obtain ⟨es, each, combined⟩ := Result.bind_eq_ok.mp ok
      rw [literals_combine combined]
      exact literals_toExprs each
  | any filters =>
      obtain ⟨es, each, combined⟩ := Result.bind_eq_ok.mp ok
      rw [literals_combine combined]
      exact literals_toExprs each
  | not inner =>
      obtain ⟨operand, innerOk, whole⟩ := Result.bind_eq_ok.mp ok
      cases whole
      have literals := literals_toExpr innerOk
      exact literals
  | compare column comparison value =>
      obtain ⟨member, found, whole⟩ := Result.bind_eq_ok.mp ok
      cases whole
      rw [member_of_column found]
      cases comparison with
      | isNull | isNotNull => exact List.nil_subset _
      | eq | ne | lt | le | gt | ge => exact List.Subset.refl _

theorem literals_toExprs {filters : List Filter} {es : List Expr}
    (ok : toExprs table filters = .ok es) :
    es.flatMap Expr.literals ⊆ (comparandsOf filters).map Value.ofJson := by
  cases filters with
  | nil =>
      cases ok
      exact List.nil_subset _
  | cons filter rest =>
      simp only [toExprs, Result.bind_eq_ok, Result.pure_eq_ok] at ok
      obtain ⟨e, first, others, tail, rfl⟩ := ok
      rw [List.flatMap_cons, comparandsOf, List.map_append]
      apply List.append_subset.mpr
      constructor
      · exact List.subset_append_of_subset_left _ (literals_toExpr first)
      · exact List.subset_append_of_subset_right _ (literals_toExprs tail)

end

end Filter

/-! ## Documents -/

/-- The literals of a query over columns are those of its conditions. -/
theorem Query.OverColumns.literals_eq {query : Query} (columns : query.OverColumns) :
    query.literals = query.filters.flatMap Expr.literals := by
  have projected : query.projected.flatMap Expr.literals = [] := by
    rw [List.flatMap_eq_nil_iff]
    intro e mem
    unfold projected at mem
    split at mem
    · rcases List.mem_append.mp mem with inSelected | inAliases
      · obtain ⟨column, rfl⟩ := columns.selected e inSelected
        rfl
      · obtain ⟨named, inNamed, rfl⟩ := List.mem_map.mp inAliases
        obtain ⟨column, same⟩ := columns.aliases named inNamed
        rw [same]
        rfl
    · cases mem
  have ordered : query.ordered.flatMap Expr.literals = [] := by
    rw [List.flatMap_eq_nil_iff]
    intro e mem
    unfold ordered at mem
    split at mem
    · obtain ⟨sort, inSorts, rfl⟩ := List.mem_map.mp mem
      obtain ⟨column, same⟩ := columns.sorts sort inSorts
      rw [same]
      rfl
    · cases mem
  rw [literals, List.flatMap_append, List.flatMap_append, projected, ordered, List.nil_append,
    List.append_nil]

namespace QueryDocument

variable {document : QueryDocument} {query : Query}

/-- The query of a document with a selection. -/
theorem of_toQuery_select (ok : document.toQuery = .ok query)
    (selects : document.command = "select") :
    query.OverColumns ∧ query.command = .select ∧
      Filter.toExprs query.table document.filters = .ok query.filters ∧
      query.take = document.take ∧ query.skip = document.skip := by
  obtain ⟨columns, -⟩ := of_toQuery_eq_ok ok
  rw [toQuery_eq, selects] at ok
  obtain ⟨command, parsed, rest⟩ := Result.bind_eq_ok.mp ok
  have isSelect : command = .select := by
    have : Command.parse "select" = .ok .select := rfl
    rw [this] at parsed
    exact (Except.ok.inj parsed).symm
  subst isSelect
  obtain ⟨base, selected, whole⟩ := Result.bind_eq_ok.mp rest
  cases whole
  simp only [selection, Result.bind_eq_ok, Result.pure_eq_ok] at selected
  obtain ⟨_, -, _, -, filters, filtersOk, _, -, rfl⟩ := selected
  exact ⟨columns, rfl, filtersOk, rfl, rfl⟩

/-- The numbers of a document that JSON text can carry are finite as literals. -/
theorem isFinite_of_mem_literals (columns : query.OverColumns)
    (described : Filter.toExprs query.table document.filters = .ok query.filters)
    (carried : ∀ n, Json.num n ∈ Filter.comparandsOf document.filters → Json.Carried n)
    {value : Value} (mem : value ∈ query.literals) : value.IsFinite := by
  rw [columns.literals_eq] at mem
  obtain ⟨json, inFilters, rfl⟩ := List.mem_map.mp (Filter.literals_toExprs described mem)
  exact Value.isFinite_ofJson fun n isNumber => carried n (isNumber ▸ inFilters)

/-- Every selection that a document describes is written for MySQL and SQLite as a statement
of the grammar in which the length and the start of a page stand alone.  It is one of the
grammar in which a start needs a length as well, unless the document has a start and no
length. -/
theorem isSelection_iff {d : Dialect} (engine : d ≠ .postgres) (mode : Mode)
    (selects : document.command = "select") (ok : document.toQuery = .ok query)
    (carried : mode = .inline →
      ∀ n, Json.num n ∈ Filter.comparandsOf document.filters → Json.Carried n) :
    ∃ statement, query.statements d mode = .ok [statement] ∧
      IsSelection d .independent statement.text ∧
      (IsSelection d .nested statement.text ↔ document.take ≠ 0 ∨ document.skip = 0) := by
  obtain ⟨columns, command, described, sameTake, sameSkip⟩ := of_toQuery_select ok selects
  have finite (inline : mode = .inline) (value : Value) (mem : value ∈ query.literals) :
      value.IsFinite :=
    isFinite_of_mem_literals columns described (carried inline) mem
  obtain ⟨statement, generated, isSelection⟩ :=
    columns.isSelection_statement command engine mode finite
  refine ⟨statement, generated, (isSelection .independent).mpr (.inl rfl), ?_⟩
  rw [isSelection .nested, sameTake, sameSkip]
  exact or_iff_right nofun

theorem isSelection_iff_listing :
    Dialect.mysql ≠ .postgres ∧ listing.command = "select" ∧
      (∀ n, Json.num n ∈ Filter.comparandsOf listing.filters → Json.Carried n) ∧
      ∃ query, listing.toQuery = .ok query ∧
        ∃ statement, query.statements .mysql .inline = .ok [statement] ∧
          IsSelection .mysql .independent statement.text ∧
          (IsSelection .mysql .nested statement.text ↔ listing.take ≠ 0 ∨ listing.skip = 0) := by
  have engine : Dialect.mysql ≠ .postgres := by decide
  have selects : listing.command = "select" := rfl
  have carried : ∀ n, Json.num n ∈ Filter.comparandsOf listing.filters → Json.Carried n := by
    intro n mem
    have year : n = .int 1960 := by
      simpa [listing, Filter.comparandsOf, Filter.comparands, Json.nat, Json.int] using mem
    rw [year]
    rfl
  have resolves : listing.Resolves :=
    ⟨by decide, by decide, by decide, by simp [listing, Filter.EachFilled, Filter.Filled]⟩
  obtain ⟨query, ok⟩ := succeeds_toQuery.mpr resolves
  have statement := isSelection_iff engine .inline selects ok fun _ => carried
  exact ⟨engine, selects, carried, query, ok, statement⟩

/-- All movies from the sixth on. -/
def fromSixth : QueryDocument where
  table := ⟨"movies", none, ["id"], ["title"], none, none⟩
  command := "select"
  columns := []
  aliases := []
  filters := []
  sorts := []
  take := 0
  skip := 5
  rows := []

/-- A start without a length is no page of the nested grammar. -/
theorem not_isSelection_fromSixth :
    ∃ query, fromSixth.toQuery = .ok query ∧
      (query.statements .mysql .placeholders = .ok [⟨"SELECT * FROM `movies` OFFSET 5;", []⟩] ∧
        ¬ IsSelection .mysql .nested "SELECT * FROM `movies` OFFSET 5;") ∧
      query.statements .sqlite .placeholders =
          .ok [⟨"SELECT * FROM \"movies\" OFFSET 5;", []⟩] ∧
        ¬ IsSelection .sqlite .nested "SELECT * FROM \"movies\" OFFSET 5;" := by
  have refused {d : Dialect} {text : String} (reads : Reads d text.toList
      [.keyword .select, .star, .keyword .source, .name, .keyword .offset, .whole, .semicolon]) :
      ¬ IsSelection d .nested text := by
    rintro ⟨terminals, also, derived⟩
    have starts := Yields.count_le derived (by decide)
    rw [also.unique reads] at starts
    exact absurd starts (by decide)
  refine ⟨_, rfl, ⟨rfl, refused ?_⟩, rfl, refused ?_⟩
  · decide +kernel
  · decide +kernel

end QueryDocument

end Polyquery
