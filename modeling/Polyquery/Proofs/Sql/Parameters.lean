import Mathlib
import Polyquery.Proofs.Sql.Holes
import Polyquery.Sql.Generate

/-!
# Parameters of selections and deletions

The values beside the statement of a selection or deletion are the literals of its
expressions, in the order in which the expressions stand in the text, and the
placeholders in the text are as many and in the same order.
-/

namespace Polyquery

variable {d : Dialect}

namespace Expr

mutual

/-- The values at the literals of an expression, from left to right.  Whatever hangs below
a literal does not count. -/
def leaves : Expr → List Value
  | .node (.literal value) _ => [value]
  | .node _ operands => leavesOf operands

/-- The values at the literals of a list of expressions. -/
def leavesOf : List Expr → List Value
  | [] => []
  | e :: rest => leaves e ++ leavesOf rest

end

mutual

theorem length_leaves : (e : Expr) → e.leaves.length = e.literalCount
  | .node (.literal _) _ => by rw [leaves, literalCount, List.length_singleton]
  | .node (.reference _) operands => by
      rw [leaves, literalCount, length_leavesOf] <;> nofun
  | .node (.op _) operands => by rw [leaves, literalCount, length_leavesOf] <;> nofun
  | .node (.command _) operands => by rw [leaves, literalCount, length_leavesOf] <;> nofun

theorem length_leavesOf : (es : List Expr) → (leavesOf es).length = literalCounts es
  | [] => rfl
  | e :: rest => by
      rw [leavesOf, literalCounts, List.length_append, length_leaves, length_leavesOf]

end

/-- The values of a complete expression stand at its literals. -/
theorem Complete.leaves_eq {e : Expr} (complete : e.Complete) : e.leaves = e.literals := by
  induction complete with
  | literal value => rfl
  | reference name => rfl
  | command c => rfl
  | unary arity inner ih => simp [Expr.unary, leaves, leavesOf, literals, ih]
  | binary arity first second ihFirst ihSecond =>
      simp [Expr.binary, leaves, leavesOf, literals, ihFirst, ihSecond]

end Expr

namespace Query

variable {query : Query} {set : StatementSet}

theorem Complete.flatMap_leaves (complete : query.Complete) :
    (query.projected ++ query.filters ++ query.ordered).flatMap Expr.leaves = query.literals := by
  have each : ∀ e ∈ query.projected ++ query.filters ++ query.ordered, e.Complete := by
    rw [List.forall_mem_append, List.forall_mem_append]
    exact ⟨⟨complete.projected, complete.filters⟩, complete.ordered⟩
  rw [literals]
  exact List.flatMap_congr fun e mem => (each e mem).leaves_eq

/-- The values of a selection or deletion are its literals from left to right, as many as
its expressions have, and each has its placeholder in the text, in the same order. -/
theorem parameters_eq (notUpsert : query.command ≠ .upsert)
    (generated : query.statements d .placeholders = .ok set) :
    ∃ statement, set = [statement] ∧
      statement.values =
        (query.projected ++ query.filters ++ query.ordered).flatMap Expr.leaves ∧
      statement.values.length =
        ((query.projected ++ query.filters ++ query.ordered).map Expr.literalCount).sum ∧
      d.holes statement.text =
        match d with
        | .mysql | .sqlite => List.replicate statement.values.length "?"
        | .postgres => (List.range' 1 statement.values.length).map fun k => "$" ++ toString k := by
  obtain ⟨drafts, made, spelled⟩ := Result.bind_eq_ok.1 generated
  rw [Result.pure_eq_ok] at spelled
  obtain ⟨draft, drafted, rfl⟩ : ∃ draft, query.draft d = .ok draft ∧ drafts = [draft] := by
    unfold Query.drafts at made
    split at made
    · exact absurd ‹_› notUpsert
    · obtain ⟨draft, drafted, alone⟩ := Result.bind_eq_ok.1 made
      rw [Result.pure_eq_ok] at alone
      exact ⟨draft, drafted, alone.symm⟩
  obtain ⟨complete, rfl⟩ := draft_eq_ok_iff.mp drafted
  refine ⟨_, spelled.symm, ?_, ?_, ?_⟩
  · exact complete.flatMap_leaves.symm
  · change query.literals.length = _
    rw [← complete.flatMap_leaves, List.length_flatMap]
    simp only [Expr.length_leaves]
  · have holes := Draft.holes_spell (terminated_isSplit made List.mem_cons_self)
    rw [query.bounds_pieces d] at holes
    -- MySQL and SQLite spell every placeholder alike
    cases d with
    | mysql | sqlite =>
        change _ = List.map (fun _ => "?") _ at holes
        rw [List.map_const', List.length_range'] at holes
        exact holes
    | postgres => exact holes

/-- A selection whose names and values look like placeholders. -/
def numberedQuery : Query :=
  ((ofTable (Table.ofColumns "films$1" ["id"] ["title"])).select
      [.binary .lt (.reference "year$2") (.literal (.int 1))]
    |>.withAlias "what?" (.literal (.str "'$3"))
    |>.filter (.binary .eq (.reference "title") (.literal (.str "$1")))
    |>.sort (.binary .ge (.literal (.int 10)) (.reference "year")) .desc)

theorem parameters_eq_numberedQuery :
    ∃ statement, numberedQuery.statements .postgres .placeholders = .ok [statement] ∧
      statement.text = "SELECT \"year$2\" < $1, $2 AS \"what?\" FROM \"films$1\" " ++
        "WHERE \"title\" = $3 ORDER BY $4 >= \"year\" DESC;" ∧
      statement.values = [.int 1, .str "'$3", .str "$1", .int 10] ∧
      Dialect.postgres.holes statement.text = ["$1", "$2", "$3", "$4"] := by
  obtain ⟨set, generated⟩ : ∃ set, numberedQuery.statements .postgres .placeholders = .ok set :=
    ⟨_, rfl⟩
  obtain ⟨statement, rfl, values, length, holes⟩ := parameters_eq (by decide) generated
  have size : statement.values.length = 4 := length.trans (by decide)
  rw [size] at holes
  refine ⟨statement, generated, ?_, values.trans (by decide), holes⟩
  cases generated
  decide

end Query

end Polyquery
