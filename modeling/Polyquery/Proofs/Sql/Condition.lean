import Polyquery.Proofs.Sql.Parsing
import Polyquery.Sql.Generate

/-!
# The condition of a statement

The filters of a document become expressions, the expressions a statement, and the
text between `WHERE` and the semicolon is read back as one condition.  Under every
assignment of values to the columns it has the truth value of all filters together.
-/

namespace Polyquery

open Sql Sql.Lexer Sql.Term Writing

/-- The condition of a statement: what stands between `WHERE` and the semicolon at the
end. -/
def Sql.condition? (text : String) : Option (Term ColumnName) := do
  let lexemes ← Lexeme.scan? text
  let tokens := (lexemes.map Lexeme.token).dropWhile (· ≠ .keyword .condition)
  let (t, rest) ← Term.ofTokens? tokens.tail
  if rest = [.semicolon] then some t else none

/-! ## In front of the condition -/

/-- Pieces without the word that announces a condition. -/
def Silent (d : Dialect) (pieces : List Piece) : Prop :=
  Token.keyword .condition ∉ pieces.flatMap (Piece.tokens d)

section

variable {d : Dialect} {first second pieces : List Piece} {items : List (List Piece)} {s : String}

theorem silent_nil : Silent d [] := List.not_mem_nil

theorem silent_append : Silent d (first ++ second) ↔ Silent d first ∧ Silent d second := by
  rw [Silent, List.flatMap_append, List.mem_append, not_or]
  rfl

theorem silent_name : Silent d (.name s :: pieces) ↔ Silent d pieces := by
  simp [Silent, Piece.tokens]

theorem silent_bound {n : Nat} : Silent d (.bound n :: pieces) ↔ Silent d pieces := by
  simp [Silent, Piece.tokens]

theorem silent_text (silent : (wordTokens s).contains (.keyword .condition) = false) :
    Silent d (.text s :: pieces) ↔ Silent d pieces := by
  have absent : Token.keyword .condition ∉ wordTokens s := by
    rw [← List.contains_iff_mem, silent]
    nofun
  simp [Silent, Piece.tokens, absent]

theorem silent_parenthesized {needed : Bool} (silent : Silent d pieces) :
    Silent d (parenthesized needed pieces) := by
  cases needed with
  | false => exact silent
  | true =>
      rw [parenthesized, if_pos rfl, silent_text (by cbv), silent_append, silent_text (by cbv)]
      exact ⟨silent, silent_nil⟩

theorem silent_separated (between : (wordTokens s).contains (.keyword .condition) = false)
    (each : ∀ item ∈ items, Silent d item) : Silent d (separated s items) := by
  induction items with
  | nil => exact silent_nil
  | cons item rest ih =>
      have first := each item List.mem_cons_self
      have others := ih fun other mem => each other (List.mem_cons_of_mem item mem)
      cases rest with
      | nil =>
          rw [separated, List.intercalate_singleton]
          exact first
      | cons second more =>
          rw [separated, List.intercalate_cons_cons, silent_append, silent_append,
            silent_text between]
          exact ⟨⟨first, silent_nil⟩, others⟩

/-- No expression announces a condition. -/
theorem Expr.silent_pieces (n : Nat) (e : Expr) : Silent d (e.pieces d n) := by
  fun_induction Expr.pieces d n e with
  | case1 => exact silent_bound.mpr silent_nil
  | case2 => exact silent_name.mpr silent_nil
  | case3 n c =>
    rw [silent_text (by cases d <;> cases c <;> cbv)]
    exact silent_nil
  | case4 n o operand inner before ih =>
    rw [silent_text (by cases o <;> cbv)]
    exact silent_parenthesized ih
  | case5 n o operand inner notBefore ih =>
    rw [silent_append, silent_text (by cases o <;> cbv)]
    exact ⟨silent_parenthesized ih, silent_nil⟩
  | case6 n o left right first second joined ihFirst ihSecond =>
    rw [silent_append, silent_append, silent_text (by cases o <;> cbv)]
    exact ⟨⟨ihFirst, silent_nil⟩, ihSecond⟩
  | case7 n o left right first second notJoined ihFirst ihSecond =>
    rw [silent_append, silent_append, silent_text (by cases o <;> cbv)]
    exact ⟨⟨silent_parenthesized ihFirst, silent_nil⟩, silent_parenthesized ihSecond⟩
  | case8 => exact silent_nil

/-- Nothing in front of the table announces a condition. -/
theorem Query.silent_headPieces (query : Query) : Silent d (query.headPieces d) := by
  unfold headPieces
  split
  · have projection : Silent d (query.projectionPieces d) := by
      rw [projectionPieces]
      split
      · rw [silent_text (by cbv)]
        exact silent_nil
      · apply silent_separated (by cbv)
        intro item mem
        rcases List.mem_append.mp mem with inSelected | inAliases
        · exact forall_mem_threaded (fun e _ n => e.silent_pieces n) _ item inSelected
        · refine forall_mem_threaded (fun named _ n => ?_) _ item inAliases
          rw [silent_append, silent_text (by cbv), silent_name]
          exact ⟨named.2.silent_pieces n, silent_nil⟩
    rw [silent_append, silent_append, silent_text (by cases d <;> cbv), silent_text (by cbv),
      silent_name]
    exact ⟨⟨silent_nil, projection⟩, silent_nil⟩
  · rw [silent_text (by cases d <;> cbv), silent_name]
    exact silent_nil

end

/-! ## Conditions together -/

/-- Conditions that all have to hold are read back as one. -/
theorem chains_conditions {table : String} {params : List Value} {es : List Expr} (d : Dialect)
    {n : Nat} (are : ∀ e ∈ es, e.IsCondition table) (present : es ≠ [])
    (placed : Expr.Placed params n (es.flatMap Expr.literals)) :
    Chains table params .and
      ((separated " AND " (threaded (fun n e => e.operandPieces d .and n)
        Expr.literals n es)).flatMap (Piece.tokens d))
      fun assignment => all3 (es.map fun e => e.truth assignment) := by
  induction es generalizing n with
  | nil => exact absurd rfl present
  | cons e rest ih =>
      rw [List.flatMap_cons] at placed
      obtain ⟨firstPlaced, restPlaced⟩ := Expr.placed_append placed
      have first := ((are e List.mem_cons_self).readsBack d firstPlaced).chains .and
      cases rest with
      | nil =>
          simp only [threaded, separated, List.intercalate_singleton, List.map_cons, List.map_nil,
            all3, and3_true]
          exact first
      | cons second others =>
          have tail := ih (fun other mem => are other (List.mem_cons_of_mem e mem))
            (List.cons_ne_nil _ _) restPlaced
          have words : wordTokens " AND " = [.keyword .and] := by cbv
          have connects : connector? (.keyword .and) = some .and := rfl
          have joined := first.append connects tail
          simp only [threaded, separated, List.intercalate_cons_cons, List.append_assoc,
            List.flatMap_append, List.flatMap_cons, Piece.tokens, words, List.cons_append,
            List.nil_append] at joined ⊢
          exact joined

namespace Expr

theorem IsCondition.complete {table : String} {e : Expr} (condition : e.IsCondition table) :
    e.Complete := by
  induction condition with
  | @compare column value o comparison =>
      refine .binary ?_ (complete_member table column) (.literal value)
      cases o <;> first | rfl | cases comparison
  | isNull column => exact .unary rfl (complete_member table column)
  | isNotNull column => exact .unary rfl (complete_member table column)
  | not inner ih => exact .unary rfl ih
  | and first second ihFirst ihSecond => exact .binary rfl ihFirst ihSecond
  | or first second ihFirst ihSecond => exact .binary rfl ihFirst ihSecond

end Expr

/-! ## Statements -/

namespace Query

/-- A selection without order and pages, or a deletion, of complete expressions. -/
structure Plain (query : Query) : Prop where
  command : query.command ≠ .upsert
  projected : ∀ e ∈ query.projected, e.Complete
  sorts : query.command = .select → query.sorts = []
  take : query.command = .select → query.take = 0
  skip : query.command = .select → query.skip = 0

variable {query : Query} {d : Dialect}

theorem Plain.ordered_eq (plain : query.Plain) : query.ordered = [] := by
  unfold ordered
  split
  · rename_i select
    rw [plain.sorts select]
    rfl
  · rfl

theorem Plain.tailPieces_eq (plain : query.Plain) (n : Nat) : query.tailPieces d n = [] := by
  unfold tailPieces
  split
  · rename_i select
    simp [paging, plain.sorts select, plain.take select, plain.skip select]
  · rfl

theorem Plain.complete (plain : query.Plain)
    (conditions : ∀ e ∈ query.filters, e.IsCondition query.table.name) : query.Complete where
  command := plain.command
  projected := plain.projected
  filters e mem := (conditions e mem).complete
  ordered e mem := by
    rw [plain.ordered_eq] at mem
    exact absurd mem List.not_mem_nil

/-- What stands in front of the semicolon is a phrase. -/
theorem Complete.phrase (complete : query.Complete) (n : Nat) :
    Phrase Piece.IsSlot (query.headPieces d ++ query.filterPieces d n) := by
  have head : Phrase Piece.IsSlot (query.headPieces d) :=
    complete.gives_writeHead.ensured
      (ensures_writeHead (fun _ => trivial) (fun _ => trivial) query)
  have filters : Continues Piece.IsSlot (query.filterPieces d n) :=
    (complete.gives_writeFilters n).ensured
      (ensures_writeFilters (fun _ => trivial) (fun _ => trivial) query)
  exact filters _ head

theorem Complete.statements_eq (complete : query.Complete) (mode : Mode) :
    query.statements d mode =
      .ok [Draft.statement d mode ⟨query.pieces d, query.literals⟩] := by
  have drafted : query.drafts d = .ok [⟨query.pieces d, query.literals⟩] := by
    unfold drafts
    split
    · rename_i upsert
      exact absurd upsert complete.command
    · rw [complete.draft_eq]
      rfl
  rw [statements, drafted]
  rfl

/-- The condition of a statement has the truth value of the conditions of the query, all
of which have to hold. -/
theorem Plain.condition?_eq (plain : query.Plain)
    (conditions : ∀ e ∈ query.filters, e.IsCondition query.table.name)
    (filtered : query.filters ≠ []) (params : List Value) :
    ∃ t, condition? ((⟨query.pieces d, params⟩ : Draft).spell d d.placeholder) = some t ∧
      Denotes query.table.name query.literals t fun assignment =>
        all3 (query.filters.map fun e => e.truth assignment) := by
  have complete := plain.complete conditions
  let before := (query.projected.flatMap Expr.literals).length
  have piecesEq : query.pieces d =
      query.headPieces d ++ query.filterPieces d before ++ [.text ";"] := by
    simp only [pieces, plain.tailPieces_eq, List.append_nil, before]
  have numbered : Piece.Numbered d 0 (query.headPieces d ++ query.filterPieces d before) := by
    have all : Piece.Numbered d 0 (query.pieces d) := by
      refine .inr ?_
      rw [bounds_pieces, List.length_range']
    rw [piecesEq] at all
    exact (Piece.numbered_append.mp all).1
  have scanned := (complete.phrase (d := d) before).scan?_eq numbered params
  obtain ⟨lexemes, lexed, tokensEq⟩ := Option.map_eq_some_iff.mp scanned
  have placed : Expr.Placed query.literals before (query.filters.flatMap Expr.literals) := by
    refine ⟨query.ordered.flatMap Expr.literals, ?_⟩
    simp only [literals, List.flatMap_append, List.append_assoc, before, List.drop_left]
  obtain ⟨t, read, denotes⟩ := (chains_conditions d conditions filtered placed).ofTokens?
  refine ⟨t, ?_, denotes⟩
  have words : wordTokens " WHERE " = [.keyword .condition] := by cbv
  have front : ∀ token ∈ (query.headPieces d).flatMap (Piece.tokens d),
      decide (token ≠ .keyword .condition) = true := by
    intro token mem
    have silent : Silent d (query.headPieces d) := query.silent_headPieces
    exact decide_eq_true fun same => silent (same ▸ mem)
  have found : ((lexemes.map Lexeme.token).dropWhile (· ≠ .keyword .condition)).tail =
      (separated " AND " (threaded (fun n e => e.operandPieces d .and n) Expr.literals before
        query.filters)).flatMap (Piece.tokens d) ++ [.semicolon] := by
    have notEmpty : query.filters.isEmpty = false := List.isEmpty_eq_false_iff.mpr filtered
    rw [tokensEq, List.flatMap_append, List.append_assoc, List.dropWhile_append_of_pos front,
      filterPieces, notEmpty, if_neg Bool.false_ne_true, List.flatMap_cons, Piece.tokens, words]
    rfl
  rw [condition?, piecesEq, lexed]
  change (Term.ofTokens? _).bind _ = _
  rw [found, read]
  rfl

end Query

/-- The text between `WHERE` and the semicolon is read back as one condition, which has
the truth value of the filters of the document under every assignment of values to the
columns. -/
theorem Filter.condition?_statement (d : Dialect) {query : Query} {filters : List Filter}
    (plain : query.Plain) (described : Filter.toExprs query.table filters = .ok query.filters)
    (filtered : filters ≠ []) :
    ∃ statement t, query.statements d .placeholders = .ok [statement] ∧
      condition? statement.text = some t ∧
      ∀ assignment : Assignment,
        t.truth? query.table.name statement.values assignment =
          some (all3 (Filter.truths assignment filters)) := by
  obtain ⟨conditions, mean⟩ := Filter.toExprs_mean described
  have present : query.filters ≠ [] := by
    intro none
    rw [none] at described
    cases filters with
    | nil => exact filtered rfl
    | cons filter rest =>
        simp only [Filter.toExprs, Result.bind_eq_ok, Result.pure_eq_ok] at described
        obtain ⟨_, _, _, _, impossible⟩ := described
        cases impossible
  obtain ⟨t, read, denotes⟩ := plain.condition?_eq (d := d) conditions present query.literals
  refine ⟨_, t, (plain.complete conditions).statements_eq .placeholders, read, ?_⟩
  intro assignment
  rw [← mean assignment]
  exact denotes assignment

/-- Filters that nest all forms. -/
def stateFilters : List Filter :=
  [.any [.compare "state" .eq (.int 1),
    .not (.all [.compare "state" .lt (.str "x"), .compare "state" .isNotNull .null])],
    .compare "state" .ge .null]

/-- The selection of the rows that the filters describe. -/
def stateQuery : Query :=
  let state := Expr.member "data" "state"
  let compare (o : Operator) (value : Value) := Expr.binary o state (.literal value)
  { Query.ofTable (Table.ofColumns "data" [] ["state"]) with
    filters := [
      .binary .or (compare .eq (.int 1)) (.unary .not
        (.binary .and (compare .lt (.str "x")) (.unary .isNotNull state))),
      compare .ge .null] }

theorem stateQuery_plain : stateQuery.Plain where
  command := nofun
  projected _ mem := absurd mem List.not_mem_nil
  sorts _ := rfl
  take _ := rfl
  skip _ := rfl

theorem Filter.condition?_statement_stateQuery :
    stateQuery.Plain ∧ Filter.toExprs stateQuery.table stateFilters = .ok stateQuery.filters ∧
      stateFilters ≠ [] ∧ ∃ statement t,
        stateQuery.statements .postgres .placeholders = .ok [statement] ∧
        condition? statement.text = some t ∧
        ∀ assignment : Assignment, t.truth? "data" statement.values assignment =
          some (all3 (Filter.truths assignment stateFilters)) := by
  have described : Filter.toExprs stateQuery.table stateFilters = .ok stateQuery.filters := rfl
  have filtered : stateFilters ≠ [] := nofun
  exact ⟨stateQuery_plain, described, filtered,
    Filter.condition?_statement .postgres stateQuery_plain described filtered⟩

end Polyquery
