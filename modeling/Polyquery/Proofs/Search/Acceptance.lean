import Polyquery.Proofs.Expression.Nodes
import Polyquery.Proofs.Search.Folding
import Polyquery.Proofs.Sql.Condition

/-!
# What a search accepts

A search looks at the number of operands of every operator, but takes the name of a
reference and the value of a literal without a look at what hangs below them.  It accepts
exactly the conditions over columns of its table, with anything below their leaves, and so
it does not refuse every malformed expression.
-/

namespace Polyquery

open Result (Succeeds succeeds_bind succeeds_bind_pure succeeds_mapM)

/-- In a complete expression every node fits. -/
theorem Expr.Complete.forall_fits {e : Expr} (complete : e.Complete) :
    ∀ node ∈ e.nodes, node.Fits := by
  induction complete with
  | literal | reference | command => exact List.forall_mem_singleton.mpr rfl
  | unary arity inner ih =>
      rw [Expr.unary, nodes, nodesOf_eq_flatMap, List.flatMap_singleton, List.forall_mem_cons]
      exact ⟨arity.symm, ih⟩
  | binary arity first second ihFirst ihSecond =>
      rw [Expr.binary, nodes, nodesOf_eq_flatMap, List.flatMap_cons, List.flatMap_singleton,
        List.forall_mem_cons, List.forall_mem_append]
      exact ⟨arity.symm, ihFirst, ihSecond⟩

theorem Expr.IsCondition.trimmed_eq_self {table : String} {e : Expr}
    (condition : e.IsCondition table) : e.trimmed = e :=
  e.trimmed_eq_self condition.complete.forall_fits

namespace Search

variable {table : String} {e : Expr}

/-! ## Columns and conditions -/

/-- Exactly the columns of the table are found, with anything below their names. -/
theorem columnName_eq_ok_iff {column : String} :
    columnName table e = .ok column ↔ e.trimmed = .member table column := by
  rw [Expr.trimmed_eq_member_iff]
  constructor
  · intro found
    unfold columnName at found
    split at found
    · rename_i owner named
      split at found
      · cases found
      · rename_i name owns
        split at found
        · cases found
        · rename_i same
          split at found
          · cases found
          · rename_i last names
            cases found
            exact ⟨owner, named, rfl, by rw [owns, not_not.mp same], names⟩
    · cases found
  · rintro ⟨owner, named, rfl, owns, names⟩
    simp [columnName, Expr.binary, owns, names]

theorem succeeds_columnName_iff :
    Succeeds (columnName table e) ↔ ∃ column, e.trimmed = .member table column :=
  exists_congr fun _ => columnName_eq_ok_iff

/-- What is folded is a condition over columns, with anything below its leaves. -/
theorem isCondition_of_fold {clause folded : Fold} (ok : fold table e clause = .ok folded) :
    e.trimmed.IsCondition table := by
  fun_induction fold table e clause generalizing folded with
  | case1 left right clause ihLeft ihRight =>
      obtain ⟨middle, leftOk, rightOk⟩ := Result.bind_eq_ok.mp ok
      exact .and (ihLeft leftOk) (ihRight middle rightOk)
  | case2 left right clause ihLeft ihRight =>
      obtain ⟨first, leftOk, rest⟩ := Result.bind_eq_ok.mp ok
      obtain ⟨second, rightOk, -⟩ := Result.bind_eq_ok.mp rest
      exact .or (ihLeft leftOk) (ihRight rightOk)
  | case3 operand clause ih =>
      obtain ⟨negated, operandOk, -⟩ := Result.bind_eq_ok.mp ok
      exact .not (ih operandOk)
  | case4 operand clause =>
      obtain ⟨column, found, -⟩ := Result.bind_eq_ok.mp ok
      rw [Expr.trimmed, Expr.trimmedOf, Expr.trimmedOf, columnName_eq_ok_iff.mp found]
      exact .isNull column
  | case5 operand clause =>
      obtain ⟨column, found, -⟩ := Result.bind_eq_ok.mp ok
      rw [Expr.trimmed, Expr.trimmedOf, Expr.trimmedOf, columnName_eq_ok_iff.mp found]
      exact .isNotNull column
  | case6 o left right clause notAnd notOr comparison =>
      obtain ⟨column, found, rest⟩ := Result.bind_eq_ok.mp ok
      cases literal : right.literal? with
      | none =>
          rw [literal] at rest
          cases rest
      | some value =>
          rw [Expr.trimmed, Expr.trimmedOf, Expr.trimmedOf, Expr.trimmedOf,
            columnName_eq_ok_iff.mp found, Expr.trimmed_eq_literal_iff.mpr literal]
          exact .compare column value comparison
  | case7 | case8 | case9 =>
      obtain ⟨_, -, impossible⟩ := Result.bind_eq_ok.mp ok
      cases impossible

/-- Exactly the conditions over columns are folded, with anything below their leaves. -/
theorem succeeds_fold_iff {clause : Fold} :
    Succeeds (fold table e clause) ↔ e.trimmed.IsCondition table := by
  constructor
  · rintro ⟨folded, ok⟩
    exact isCondition_of_fold ok
  · intro condition
    generalize bare : e.trimmed = trimmed at condition
    induction condition generalizing e clause with
    | @compare column value o comparison =>
        obtain ⟨left, right, rfl, named, valued⟩ := Expr.trimmed_eq_binary_iff.mp bare
        have folded : fold table (.binary o left right) clause =
            .ok (clause.compare column o value) := by
          rw [Expr.binary, fold, if_pos comparison, columnName_eq_ok_iff.mpr named,
            Expr.trimmed_eq_literal_iff.mp valued]
          · rfl
          -- a comparison is neither a conjunction nor a disjunction
          all_goals
            rintro rfl
            cases comparison
        rw [folded]
        exact Result.succeeds_ok _
    | isNull column =>
        obtain ⟨operand, rfl, named⟩ := Expr.trimmed_eq_unary_iff.mp bare
        rw [Expr.unary, fold, columnName_eq_ok_iff.mpr named]
        exact Result.succeeds_ok _
    | isNotNull column =>
        obtain ⟨operand, rfl, named⟩ := Expr.trimmed_eq_unary_iff.mp bare
        rw [Expr.unary, fold, columnName_eq_ok_iff.mpr named]
        exact Result.succeeds_ok _
    | not inner ih =>
        obtain ⟨operand, rfl, below⟩ := Expr.trimmed_eq_unary_iff.mp bare
        rw [Expr.unary, fold, succeeds_bind_pure]
        exact ih below
    | and first second ihFirst ihSecond =>
        obtain ⟨left, right, rfl, onLeft, onRight⟩ := Expr.trimmed_eq_binary_iff.mp bare
        rw [Expr.binary, fold, succeeds_bind fun _ _ => iff_true_intro (ihSecond onRight)]
        exact ⟨ihFirst onLeft, trivial⟩
    | or first second ihFirst ihSecond =>
        obtain ⟨left, right, rfl, onLeft, onRight⟩ := Expr.trimmed_eq_binary_iff.mp bare
        rw [Expr.binary, fold, succeeds_bind fun _ _ => succeeds_bind_pure]
        exact ⟨ihFirst onLeft, ihSecond onRight⟩

theorem succeeds_foldlM_iff {filters : List Expr} {clause : Fold} :
    Succeeds (filters.foldlM (fun clause filter => fold table filter clause) clause) ↔
      ∀ e ∈ filters, e.trimmed.IsCondition table := by
  induction filters generalizing clause with
  | nil => exact iff_of_true (Result.succeeds_ok clause) fun _ mem => absurd mem List.not_mem_nil
  | cons e rest ih =>
      rw [List.foldlM_cons, succeeds_bind fun _ _ => ih, succeeds_fold_iff, List.forall_mem_cons]

end Search

/-! ## Queries -/

namespace Query

variable {query : Query}

/-- The expressions that a search selects. -/
def sourced (query : Query) : List Expr :=
  match query.command with
  | .select => query.selected
  | _ => []

theorem sourced_subset (query : Query) : query.sourced ⊆ query.selected := by
  intro e mem
  unfold sourced at mem
  split at mem
  · exact mem
  · cases mem

/-- The expressions of a search: what it selects, sorts by and filters with. -/
def searched (query : Query) : List Expr :=
  query.sourced ++ query.sorts.map SortKey.expr ++ query.filters

/-- A query that selects and sorts by columns of its table and filters with conditions over
them, with anything below the leaves. -/
structure IsSearch (query : Query) : Prop where
  aliases : query.aliases = []
  sourced : ∀ e ∈ query.sourced, ∃ column, e.trimmed = .member query.table.name column
  sorts : ∀ sort ∈ query.sorts, ∃ column, sort.expr.trimmed = .member query.table.name column
  filters : ∀ e ∈ query.filters, e.trimmed.IsCondition query.table.name

/-- Some node of the expressions of a search does not fit. -/
def IsMalformed (query : Query) : Prop :=
  ∃ e ∈ query.searched, ∃ node ∈ e.nodes, ¬ node.Fits

end Query

namespace Search.Request

variable {query : Query}

theorem succeeds_source_iff : Succeeds (source query) ↔
    ∀ e ∈ query.sourced, ∃ column, e.trimmed = .member query.table.name column := by
  rw [source, Query.sourced]
  cases command : query.command with
  | upsert | delete =>
      rw [if_pos (by simp)]
      exact iff_of_true (Result.succeeds_ok _) fun _ mem => absurd mem List.not_mem_nil
  | select =>
      by_cases all : query.selectsAll
      · have none : query.selected = [] := by
          simp only [Query.selectsAll, Bool.and_eq_true, List.isEmpty_iff] at all
          exact all.1.2
        rw [if_pos (by simp [all]), none]
        exact iff_of_true (Result.succeeds_ok _) fun _ mem => absurd mem List.not_mem_nil
      · rw [if_neg (by simp [all]), succeeds_bind_pure, succeeds_mapM]
        simp only [succeeds_columnName_iff]

theorem succeeds_sorts_iff : Succeeds (sorts query) ↔
    ∀ sort ∈ query.sorts, ∃ column, sort.expr.trimmed = .member query.table.name column := by
  rw [sorts]
  split
  · rename_i none
    rw [List.isEmpty_iff.mp none]
    exact iff_of_true (Result.succeeds_ok _) fun _ mem => absurd mem List.not_mem_nil
  · rw [succeeds_bind_pure, succeeds_mapM]
    simp only [succeeds_bind_pure, succeeds_columnName_iff]

theorem succeeds_condition_iff : Succeeds (condition query) ↔
    ∀ e ∈ query.filters, e.trimmed.IsCondition query.table.name := by
  rw [condition]
  split
  · rename_i none
    rw [List.isEmpty_iff.mp none]
    exact iff_of_true (Result.succeeds_ok _) fun _ mem => absurd mem List.not_mem_nil
  · rw [succeeds_bind_pure, succeeds_foldlM_iff]

/-- Exactly the searches have a request, whatever hangs below their leaves. -/
theorem succeeds_ofQuery_iff : Succeeds (ofQuery query) ↔ query.IsSearch := by
  by_cases none : query.aliases = []
  · have parts : Succeeds (ofQuery query) ↔
        Succeeds (source query) ∧ Succeeds (sorts query) ∧ Succeeds (condition query) := by
      have unnamed : query.aliases.isEmpty = true := List.isEmpty_iff.mpr none
      rw [ofQuery, unnamed]
      exact succeeds_bind fun _ _ => succeeds_bind fun _ _ => succeeds_bind_pure
    rw [parts, succeeds_source_iff, succeeds_sorts_iff, succeeds_condition_iff]
    constructor
    · rintro ⟨sourced, sorts, filters⟩
      exact ⟨none, sourced, sorts, filters⟩
    · rintro ⟨-, sourced, sorts, filters⟩
      exact ⟨sourced, sorts, filters⟩
  · have named : query.aliases.isEmpty = false := List.isEmpty_eq_false_iff.mpr none
    refine iff_of_false ?_ fun search => none search.aliases
    rw [ofQuery, named]
    exact Result.not_succeeds_error _

/-- In a search only a leaf with something below it keeps a node from fitting. -/
theorem not_isMalformed_iff (search : query.IsSearch) :
    ¬ query.IsMalformed ↔ ∀ e ∈ query.searched, e.trimmed = e := by
  have complete : ∀ e ∈ query.searched, e.trimmed.Complete := by
    simp only [Query.searched, List.forall_mem_append, List.forall_mem_map]
    refine ⟨⟨fun e mem => ?_, fun sort mem => ?_⟩, fun e mem => (search.filters e mem).complete⟩
    · obtain ⟨column, named⟩ := search.sourced e mem
      rw [named]
      exact Expr.complete_member _ column
    · obtain ⟨column, named⟩ := search.sorts sort mem
      rw [named]
      exact Expr.complete_member _ column
  constructor
  · intro sound e mem
    refine e.trimmed_eq_self fun node inside => ?_
    exact not_not.mp fun stray => sound ⟨e, mem, node, inside, stray⟩
  · rintro bare ⟨e, mem, node, inside, stray⟩
    rw [← bare e mem] at inside
    exact stray ((complete e mem).forall_fits node inside)

/-- A query has a request exactly if it is a search, with anything below its leaves.  So a
malformed query is refused exactly if it is no search, or nothing hangs below its leaves. -/
theorem refuses_malformed_iff (query : Query) :
    (Succeeds (ofQuery query) ↔ query.IsSearch) ∧
    ((query.IsMalformed → ¬ Succeeds (ofQuery query)) ↔
      (query.IsSearch → ∀ e ∈ query.searched, e.trimmed = e)) := by
  refine ⟨succeeds_ofQuery_iff, ?_⟩
  rw [succeeds_ofQuery_iff]
  constructor
  · intro refuses search
    exact (not_isMalformed_iff search).mp fun malformed => refuses malformed search
  · intro bare malformed search
    exact (not_isMalformed_iff search).mpr (bare search) malformed

/-- A search for a title, with something below the name of the column and below the title. -/
def looseSearch : Query :=
  let year := Expr.member "films" "year"
  let title := Expr.binary .member (.reference "films") (.node (.reference "title") [year])
  (Query.ofTable (Table.ofColumns "films" ["id"] ["title", "year"])).filter
    (.binary .eq title (.node (.literal (.str "Marnie")) [.node (.op .and) []]))

/-- What hangs below the leaves is left out of the request. -/
theorem accepts_looseSearch :
    looseSearch.IsMalformed ∧ ∃ request, ofQuery looseSearch = .ok request ∧
      request.body.condition = some (.all [.equal "title" (.str "Marnie")] []) := by
  refine ⟨⟨_, List.mem_cons_self, .node (.op .and) [], ?_, by decide⟩, _, rfl, rfl⟩
  simp [Expr.nodes, Expr.nodesOf, Expr.binary, Expr.reference, Expr.member]

end Search.Request

end Polyquery
