import Polyquery.Proofs.Sql.Writing

/-!
# Numbers of parameters

The parameters of a selection or deletion are numbered one by one from left to right,
one for each literal.
-/

namespace Polyquery

open Writing

/-! ## Pieces -/

namespace Piece

/-- The numbers of the parameters in some pieces. -/
def bounds (pieces : List Piece) : List Nat :=
  pieces.filterMap fun piece =>
    match piece with
    | .bound n => some n
    | _ => none

variable {first second pieces : List Piece} {items : List (List Piece)} {s : String}

@[simp]
theorem bounds_nil : bounds [] = [] := rfl

@[simp]
theorem bounds_append : bounds (first ++ second) = bounds first ++ bounds second :=
  List.filterMap_append

@[simp]
theorem bounds_text : bounds (.text s :: pieces) = bounds pieces := rfl

@[simp]
theorem bounds_name : bounds (.name s :: pieces) = bounds pieces := rfl

@[simp]
theorem bounds_parenthesized (needed : Bool) :
    bounds (parenthesized needed pieces) = bounds pieces := by
  cases needed with
  | false => rfl
  | true => simp [parenthesized]

@[simp]
theorem bounds_separated : bounds (separated s items) = items.flatMap bounds := by
  induction items with
  | nil => rfl
  | cons first rest ih =>
      cases rest with
      | nil => simp [separated, List.intercalate_singleton]
      | cons second others =>
          have tail : bounds (separated s (first :: second :: others)) =
              bounds first ++ bounds (separated s (second :: others)) := by
            rw [separated, List.intercalate_cons_cons]
            simp [separated]
          rw [tail, ih]
          rfl

end Piece

open Piece

/-- Items that are numbered one after the other are numbered together. -/
theorem Writing.bounds_threaded {α : Type} {result : Nat → α → List Piece}
    {values : α → List Value}
    (each : ∀ n item, bounds (result n item) = List.range' (n + 1) (values item).length)
    (n : Nat) (items : List α) :
    (threaded result values n items).flatMap bounds =
      List.range' (n + 1) (items.flatMap values).length := by
  induction items generalizing n with
  | nil => rfl
  | cons item rest ih =>
      rw [threaded, List.flatMap_cons, each, ih, List.flatMap_cons, List.length_append,
        ← List.range'_append_1, Nat.add_right_comm]

/-! ## Expressions and queries -/

theorem Expr.bounds_pieces (d : Dialect) (n : Nat) (e : Expr) :
    bounds (e.pieces d n) = List.range' (n + 1) e.literals.length := by
  fun_induction Expr.pieces d n e with
  | case1 => rfl
  | case2 => rfl
  | case3 => rfl
  | case4 n o operand inner before ih =>
    rw [bounds_text, bounds_parenthesized, ih]
    rfl
  | case5 n o operand inner notBefore ih =>
    rw [bounds_append, bounds_parenthesized, ih]
    simp [Expr.literals]
  | case6 n o left right first second joined ihFirst ihSecond =>
    rw [bounds_append, bounds_append, ihFirst, ihSecond]
    simp [Expr.literals, ← List.range'_append_1, Nat.add_right_comm]
  | case7 n o left right first second notJoined ihFirst ihSecond =>
    rw [bounds_append, bounds_append, bounds_parenthesized, bounds_parenthesized, ihFirst, ihSecond]
    simp [Expr.literals, ← List.range'_append_1, Nat.add_right_comm]
  | case8 n e notLiteral notReference notCommand notUnary notBinary =>
    unfold Expr.literals
    split
    · exact absurd rfl (notLiteral _ _)
    · exact absurd rfl (notUnary _ _)
    · exact absurd rfl (notBinary _ _ _)
    · rfl

namespace Query

variable (d : Dialect) (query : Query)

theorem bounds_headPieces :
    bounds (query.headPieces d) =
      List.range' 1 (query.projected.flatMap Expr.literals).length := by
  unfold headPieces projected
  split
  · rw [bounds_append, bounds_append, bounds_text, bounds_text, bounds_name, bounds_nil,
      List.nil_append, List.append_nil, projectionPieces]
    split
    · rename_i all
      have none : query.selected = [] ∧ query.aliases = [] := by
        simp only [selectsAll, Bool.and_eq_true, List.isEmpty_iff] at all
        exact ⟨all.1.2, all.2⟩
      rw [none.1, none.2]
      rfl
    · rw [bounds_separated, List.flatMap_append, bounds_threaded fun n e => e.bounds_pieces d n,
        bounds_threaded fun n named => by rw [bounds_append, named.2.bounds_pieces d n]; simp]
      rw [List.flatMap_append, List.flatMap_map, List.length_append, Nat.zero_add,
        ← List.range'_append_1, Nat.add_comm 1]
  · rfl

theorem bounds_filterPieces (n : Nat) :
    bounds (query.filterPieces d n) =
      List.range' (n + 1) (query.filters.flatMap Expr.literals).length := by
  rw [filterPieces]
  split
  · rename_i none
    rw [List.isEmpty_iff.mp none]
    rfl
  · rw [bounds_text, bounds_separated, bounds_threaded]
    intro n e
    rw [Expr.operandPieces, bounds_parenthesized, Expr.bounds_pieces]

theorem bounds_paging : bounds query.paging = [] := by
  unfold paging
  split <;> split <;> rfl

theorem bounds_tailPieces (n : Nat) :
    bounds (query.tailPieces d n) =
      List.range' (n + 1) (query.ordered.flatMap Expr.literals).length := by
  unfold tailPieces ordered
  split
  · rw [bounds_append, bounds_paging, List.append_nil, List.flatMap_map]
    split
    · rename_i none
      rw [List.isEmpty_iff.mp none]
      rfl
    · rw [bounds_text, bounds_separated, bounds_threaded]
      intro n sort
      rw [bounds_append, sort.expr.bounds_pieces d n]
      simp
  · rfl

/-- The parameters are numbered one by one from left to right. -/
theorem bounds_pieces : bounds (query.pieces d) = List.range' 1 query.literals.length := by
  have shift (first second : Nat) :
      List.range' 1 (first + second) = List.range' 1 first ++ List.range' (first + 1) second := by
    rw [Nat.add_comm first 1, List.range'_append_1]
  simp only [pieces, bounds_append, bounds_text, bounds_nil, List.append_nil, bounds_headPieces,
    bounds_filterPieces, bounds_tailPieces, literals, List.flatMap_append, List.length_append]
  rw [shift, shift]

end Query

end Polyquery
