import Polyquery.Proofs.Expression.Nodes
import Polyquery.Proofs.Result
import Polyquery.Proofs.Sql.Writing
import Polyquery.Sql.Generate

/-!
# Malformed expressions in SQL

A selection or deletion is written exactly if all nodes of its expressions fit.  If some do
not, the error is about the first of them in the order of writing.  One judgement carries
both: the nodes that a writing checks are those of its first part and then those of its
second.
-/

namespace Polyquery

open Result (Succeeds)

variable {α β : Type} {d : Dialect}

/-! ## What a writing checks -/

/-- There is a result if all of some nodes fit, and otherwise the error is about the first
one that does not. -/
def Result.Checked (nodes : List Expr) (result : Result α) : Prop :=
  match nodes.find? fun node => ¬ node.Fits with
  | none => Succeeds result
  | some node => result = .error node.arityError

namespace Writing

/-- A writing goes through some nodes in order. -/
def Checks (writing : Writing α) (nodes : List Expr) : Prop :=
  ∀ before, Result.Checked nodes ((ExceptT.run writing).run before).1

variable {writing : Writing α} {nodes more : List Expr} {node : Expr}

theorem checks_pure (result : α) : (pure result : Writing α).Checks [] :=
  fun _ => Result.succeeds_ok result

theorem Checks.cons (checks : writing.Checks nodes) (fits : node.Fits) :
    writing.Checks (node :: nodes) := by
  intro before
  rw [Result.Checked, List.find?_cons_of_neg (by simpa using fits)]
  exact checks before

theorem checks_throw (stray : ¬ node.Fits) (nodes : List Expr) :
    (throw node.arityError : Writing α).Checks (node :: nodes) := by
  intro before
  rw [Result.Checked, List.find?_cons_of_pos (by simpa using stray)]
  rfl

theorem Checks.bind {next : α → Writing β} (first : writing.Checks nodes)
    (second : ∀ result, (next result).Checks more) :
    (writing >>= next).Checks (nodes ++ more) := by
  intro before
  have head := first before
  rw [ExceptT.run_bind, StateT.run_bind]
  rw [Result.Checked] at head ⊢
  rw [List.find?_append]
  cases ran : (ExceptT.run writing).run before with
  | mk outcome middle =>
      rw [ran] at head
      cases found : nodes.find? fun node => ¬ node.Fits with
      | none =>
          rw [found] at head
          obtain ⟨result, ok⟩ := head
          cases ok
          exact second result middle
      | some node =>
          rw [found] at head
          cases head
          rfl

theorem Checks.map {f : α → β} (checks : writing.Checks nodes) :
    (writing >>= fun a => pure (f a)).Checks nodes := by
  have both : (writing >>= fun a => pure (f a)).Checks (nodes ++ []) :=
    checks.bind fun result => checks_pure (f result)
  rwa [List.append_nil] at both

theorem checks_mapM {f : α → Writing β} {nodes : α → List Expr}
    (each : ∀ item, (f item).Checks (nodes item)) (items : List α) :
    (items.mapM f).Checks (items.flatMap nodes) := by
  induction items with
  | nil =>
      rw [List.mapM_nil]
      exact checks_pure []
  | cons item rest ih =>
      rw [List.mapM_cons, List.flatMap_cons]
      exact (each item).bind fun _ => ih.map

end Writing

open Writing

/-! ## Expressions -/

/-- An expression is written node by node. -/
theorem Expr.checks_write (e : Expr) : (e.write d).Checks e.nodes := by
  fun_induction Expr.write d e with
  | case1 value =>
      have bound : (Writing.bind value).Checks [] := fun _ => Result.succeeds_ok _
      exact bound.map.cons rfl
  | case2 name => exact (checks_pure _).cons rfl
  | case3 c => exact (checks_pure _).cons rfl
  | case4 o operand before ih =>
      rw [nodes, nodesOf_eq_flatMap, List.flatMap_singleton]
      exact ih.map.cons (fits_unary_iff.mpr (.inl before))
  | case5 o operand after ih =>
      rw [nodes, nodesOf_eq_flatMap, List.flatMap_singleton]
      exact ih.map.cons (fits_unary_iff.mpr (.inr after))
  | case6 o operand notBefore notAfter =>
      have stray : ¬ (unary o operand).Fits := fun fits =>
        (fits_unary_iff.mp fits).elim notBefore notAfter
      exact checks_throw stray _
  | case7 o left right joined ihLeft ihRight =>
      rw [nodes, nodesOf_eq_flatMap, List.flatMap_cons, List.flatMap_singleton]
      exact (ihLeft.bind fun _ => ihRight.map).cons (fits_binary_iff.mpr (.inr joined))
  | case8 o left right between ihLeft ihRight =>
      rw [nodes, nodesOf_eq_flatMap, List.flatMap_cons, List.flatMap_singleton]
      exact (ihLeft.bind fun _ => ihRight.map).cons (fits_binary_iff.mpr (.inl between))
  | case9 o left right notJoined notBetween =>
      have stray : ¬ (binary o left right).Fits := fun fits =>
        (fits_binary_iff.mp fits).elim notBetween notJoined
      exact checks_throw stray _
  | case10 symbol operands notLiteral notReference notCommand notUnary notBinary =>
      refine @checks_throw _ (.node symbol operands) (fun fits => ?_) _
      rcases fits.cases with ⟨alone, notOperator⟩ | ⟨o, operand, same⟩ | ⟨o, left, right, same⟩
      · cases alone
        cases symbol with
        | literal value => exact notLiteral value rfl rfl
        | reference name => exact notReference name rfl rfl
        | command c => exact notCommand c rfl rfl
        | op o => cases notOperator
      · cases same
        exact notUnary o operand rfl rfl
      · cases same
        exact notBinary o left right rfl rfl

theorem Expr.checks_writeOperand (parent : Operator) (e : Expr) :
    (e.writeOperand d parent).Checks e.nodes :=
  e.checks_write.map

/-! ## Queries -/

namespace Query

/-- The expressions that are written, in the order in which they stand in the text. -/
def written (query : Query) : List Expr :=
  query.projected ++ query.filters ++ query.ordered

variable {query : Query}

theorem checks_writeHead (searches : query.command ≠ .upsert) :
    (query.writeHead d).Checks (query.projected.flatMap Expr.nodes) := by
  cases command : query.command with
  | upsert => exact absurd command searches
  | delete =>
      rw [writeHead, projected, command]
      exact checks_pure _
  | select =>
      have projection : (query.writeProjection d).Checks
          ((query.selected ++ query.aliases.map Prod.snd).flatMap Expr.nodes) := by
        rw [writeProjection]
        by_cases all : query.selectsAll
        · have none : query.selected = [] ∧ query.aliases = [] := by
            simpa [selectsAll, command] using all
          rw [if_pos all, none.1, none.2]
          exact checks_pure _
        · rw [if_neg all, List.flatMap_append, List.flatMap_map]
          refine (checks_mapM (fun e => e.checks_write) _).bind fun _ => ?_
          exact (checks_mapM (fun named => named.2.checks_write.map) _).map
      simp only [writeHead, projected, command]
      exact projection.map

theorem checks_writeFilters :
    (query.writeFilters d).Checks (query.filters.flatMap Expr.nodes) := by
  rw [writeFilters]
  by_cases none : query.filters.isEmpty
  · rw [if_pos none, List.isEmpty_iff.mp none]
    exact checks_pure _
  · rw [if_neg none]
    exact (checks_mapM (Expr.checks_writeOperand .and) _).map

theorem checks_writeTail :
    (query.writeTail d).Checks (query.ordered.flatMap Expr.nodes) := by
  cases command : query.command with
  | upsert | delete =>
      rw [writeTail, ordered, command]
      exact checks_pure _
  | select =>
      have sorts : (query.writeSorts d).Checks
          ((query.sorts.map SortKey.expr).flatMap Expr.nodes) := by
        rw [writeSorts]
        by_cases none : query.sorts.isEmpty
        · rw [if_pos none, List.isEmpty_iff.mp none]
          exact checks_pure _
        · rw [if_neg none, List.flatMap_map]
          exact (checks_mapM (fun sort => sort.expr.checks_write.map) _).map
      simp only [writeTail, ordered, command]
      exact sorts.map

/-- A selection or deletion is written node by node. -/
theorem checks_write (searches : query.command ≠ .upsert) :
    (query.write d).Checks (query.written.flatMap Expr.nodes) := by
  rw [written, List.flatMap_append, List.flatMap_append, List.append_assoc]
  exact (checks_writeHead searches).bind fun _ =>
    checks_writeFilters.bind fun _ => checks_writeTail.map

theorem statements_eq_map_draft (searches : query.command ≠ .upsert) (mode : Mode) :
    query.statements d mode = (query.draft d).map fun draft => [draft.statement d mode] := by
  cases command : query.command with
  | upsert => exact absurd command searches
  | select | delete =>
      rw [statements, drafts, command]
      change ((query.draft d >>= _) >>= _) = _
      cases query.draft d <;> rfl

/-- The statements fail over the first node that does not fit, and over nothing else. -/
theorem checked_statements (searches : query.command ≠ .upsert) (d : Dialect) (mode : Mode) :
    Result.Checked (query.written.flatMap Expr.nodes) (query.statements d mode) := by
  have checks : Result.Checked _ (query.write d).run.1 := checks_write searches []
  rw [statements_eq_map_draft searches, draft]
  cases ran : (query.write d).run with
  | mk outcome params =>
      rw [ran] at checks
      unfold Result.Checked at checks ⊢
      split at checks
      · obtain ⟨pieces, ok⟩ := checks
        cases ok
        exact Result.succeeds_ok _
      · cases checks
        rfl

/-- A selection or deletion has statements exactly if every node of its written expressions
has the operands that it asks for.  Otherwise the error names the first node that has not:
the expressions come in the order of the text, and a node before the nodes below it. -/
theorem statements_arity (searches : query.command ≠ .upsert) (d : Dialect) (mode : Mode) :
    (Succeeds (query.statements d mode) ↔
      ∀ e ∈ query.written, ∀ node ∈ e.nodes, node.Fits) ∧
    ∀ before node after, query.written.flatMap Expr.nodes = before ++ node :: after →
      (∀ earlier ∈ before, earlier.Fits) → ¬ node.Fits →
      query.statements d mode = .error node.arityError := by
  have checked := checked_statements searches d mode
  rw [Result.Checked] at checked
  constructor
  · cases found : (query.written.flatMap Expr.nodes).find? fun node => ¬ node.Fits with
    | none =>
        rw [found] at checked
        refine iff_of_true checked fun e mem node inside => ?_
        have fits := List.find?_eq_none.mp found node (List.mem_flatMap_of_mem mem inside)
        simpa using fits
    | some node =>
        rw [found] at checked
        refine iff_of_false ?_ fun every => ?_
        · rw [checked]
          exact Result.not_succeeds_error _
        · obtain ⟨e, mem, inside⟩ := List.mem_flatMap.mp (List.mem_of_find?_eq_some found)
          have stray : ¬ node.Fits := by simpa using List.find?_some found
          exact stray (every e mem node inside)
  · intro before node after split fits stray
    have found : (query.written.flatMap Expr.nodes).find? (fun node => ¬ node.Fits) =
        some node := by
      rw [List.find?_eq_some_iff_append]
      exact ⟨by simpa using stray, before, after, split, by simpa using fits⟩
    rw [found] at checked
    exact checked

/-- A literal with an operand. -/
def looseLiteral : Expr :=
  .node (.literal (.int 1960)) [.member "films" "title"]

/-- A selection whose label and whose condition do not fit. -/
def looseQuery : Query :=
  let year := Expr.member "films" "year"
  (((ofTable (Table.ofColumns "films" ["id"] ["title", "year"])).select [year]).withAlias "old"
    (.binary .lt year looseLiteral)).filter (.node (.op .eq) [])

theorem statements_arity_looseQuery :
    looseQuery.command ≠ .upsert ∧
    (∃ failure, looseQuery.statements .mysql .inline = .error failure ∧ failure.message =
      "Query generation failed: node Literal(Int(1960)) expects 0 children, found 1") ∧
    looseQuery.delete.command ≠ .upsert ∧
    (∃ failure, looseQuery.delete.statements .postgres .placeholders = .error failure ∧
      failure.message = "Query generation failed: node Op(Eq) expects 2 children, found 0") ∧
    ¬ Succeeds (looseQuery.delete.statements .sqlite .inline) := by
  let year := Expr.member "films" "year"
  have selecting : looseQuery.statements .mysql .inline = .error looseLiteral.arityError :=
    (statements_arity (by decide) .mysql .inline).2
      (year.nodes ++ .binary .lt year looseLiteral :: year.nodes) _ _ rfl (by decide) (by decide)
  have deleting : looseQuery.delete.statements .postgres .placeholders =
      .error (Expr.node (.op .eq) []).arityError :=
    (statements_arity (by decide) .postgres .placeholders).2 [] _ [] rfl (by decide) (by decide)
  refine ⟨by decide, ⟨_, selecting, by decide⟩, by decide, ⟨_, deleting, by decide⟩, ?_⟩
  rw [(statements_arity (by decide) .sqlite .inline).1]
  intro fits
  exact absurd (fits (.node (.op .eq) []) List.mem_cons_self _ List.mem_cons_self) (by decide)

end Query

end Polyquery
