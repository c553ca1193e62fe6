import Mathlib.Data.List.Forall2
import Polyquery.Proofs.Sql.Holes
import Polyquery.Proofs.Sql.Rows

/-!
# Literals in place of placeholders

A query has statements with placeholders exactly when it has statements with literals,
and each statement with literals is the one with placeholders after its holes have been
filled.  PostgreSQL finds the value of a hole by its number, whether the hole comes once
or twice; the other dialects take the next value, so there the holes must stand in the
order of the values.
-/

namespace Polyquery

open Piece

variable {d : Dialect}

/-! ## Addressed drafts -/

/-- A draft whose parameters all have a value, one after the other where placeholders
have no number. -/
structure Draft.Addressed (d : Dialect) (draft : Draft) : Prop where
  known : bounds draft.pieces ⊆ List.range' 1 draft.params.length
  ordered : d.isNumbered = false → bounds draft.pieces = List.range' 1 draft.params.length

theorem Draft.Addressed.of_bounds_eq {draft : Draft}
    (numbered : bounds draft.pieces = List.range' 1 draft.params.length) :
    draft.Addressed d where
  known := by
    rw [numbered]
    exact List.Subset.refl _
  ordered _ := numbered

namespace UpsertRun

variable {table : Table} {run : UpsertRun} {drafts : List Draft} {draft : Draft}

theorem addressed_pieces (d : Dialect) (table : Table) (run : UpsertRun) :
    (⟨run.pieces d table, run.values⟩ : Draft).Addressed d where
  known := by
    cases d with
    | mysql =>
        rw [bounds_pieces_replace table run (by decide)]
        exact List.Subset.refl _
    | sqlite =>
        rw [bounds_pieces_replace table run (by decide)]
        exact List.Subset.refl _
    | postgres => exact bounds_pieces_insert table run
  ordered unnumbered := by
    apply bounds_pieces_replace table run
    rintro rfl
    cases unnumbered

theorem addressed_of_mem_drafts (made : run.drafts d table = .ok drafts) (mem : draft ∈ drafts) :
    draft.Addressed d := by
  by_cases none : run.columns = []
  · rw [UpsertRun.drafts, none] at made
    cases made
  · rw [drafts_eq d table run none] at made
    cases made
    rcases List.mem_cons.mp mem with rfl | follows
    · exact addressed_pieces d table run
    · rw [eq_lastRowId_of_mem_followUp table run follows]
      exact .of_bounds_eq rfl

end UpsertRun

/-- Whatever is drafted for a query is addressed. -/
theorem Query.addressed_of_mem_drafts {query : Query} {drafts : List Draft}
    (made : query.drafts d = .ok drafts) {draft : Draft} (mem : draft ∈ drafts) :
    draft.Addressed d := by
  unfold Query.drafts at made
  split at made
  · obtain ⟨runs, runsMade, joined⟩ := Result.bind_eq_ok.1 made
    rw [Result.pure_eq_ok] at joined
    rw [← joined] at mem
    obtain ⟨ofRun, inRuns, inRun⟩ := List.mem_flatten.mp mem
    obtain ⟨run, -, runMade⟩ := Result.exists_mem_of_mapM_eq_ok runsMade inRuns
    exact UpsertRun.addressed_of_mem_drafts runMade inRun
  · obtain ⟨only, onlyMade, alone⟩ := Result.bind_eq_ok.1 made
    rw [Result.pure_eq_ok] at alone
    rw [← alone, List.mem_singleton] at mem
    obtain ⟨-, rfl⟩ := draft_eq_ok_iff.mp onlyMade
    rw [mem]
    exact .of_bounds_eq (query.bounds_pieces d)

/-! ## Filling -/

namespace Dialect

variable {values params : List Value} {k n : Nat}

/-- Plain characters stay as they are. -/
theorem fillFrom?_plain (cs : List Char) (rest : List Stretch) :
    d.fillFrom? values k (cs.map .plain ++ rest) =
      (d.fillFrom? values k rest).map (cs ++ ·) := by
  induction cs with
  | nil => simp
  | cons c others ih =>
      rw [List.map_cons, List.cons_append, fillFrom?, ih, Option.map_map]
      rfl

/-- The value for the placeholder of a parameter is the value of the parameter. -/
theorem holeValue?_numberDigits (known : n ∈ List.range' 1 params.length)
    (next : d.isNumbered = false → n = k + 1) :
    d.holeValue? params k (numberDigits d n) = some (params.getD (n - 1) .null) := by
  have bound : n ≠ 0 ∧ n - 1 < params.length := by
    rw [List.mem_range'_1] at known
    omega
  have found : params[n - 1]? = some (params.getD (n - 1) .null) := by
    rw [List.getD_eq_getElem?_getD, List.getElem?_eq_getElem bound.2, Option.getD_some]
  unfold holeValue? numberDigits
  cases numbered : d.isNumbered with
  | false =>
      rw [next numbered, Nat.add_sub_cancel] at found ⊢
      exact found
  | true =>
      have read : Sql.Lexer.parameterNumber? (toString n).toList = some n := by
        rw [Nat.toString_eq_repr, Nat.toList_repr]
        exact Sql.Lexer.parameterNumber?_toDigits n
      simp only [if_true, read, Option.bind_eq_bind, Option.bind_some, if_neg bound.1, found]

end Dialect

/-- The stretches of pieces are filled with the literals of their parameters. -/
theorem fillFrom?_stretches {draft : Draft} {pieces : List Piece} {k : Nat}
    (known : bounds pieces ⊆ List.range' 1 draft.params.length)
    (ordered : d.isNumbered = false →
      bounds pieces = List.range' (k + 1) (bounds pieces).length) :
    d.fillFrom? draft.params k (pieces.flatMap (Piece.stretches d)) =
      some (chars d (draft.inlined d) pieces) := by
  induction pieces generalizing k with
  | nil => rfl
  | cons piece rest ih =>
      -- a piece that is no parameter is spelled alike and leaves the numbers alone
      have plain (same : bounds (piece :: rest) = bounds rest) (cs : List Char)
          (made : piece.stretches d = cs.map .plain)
          (spelled : (piece.spell d (draft.inlined d)).toList = cs) :
          d.fillFrom? draft.params k ((piece :: rest).flatMap (Piece.stretches d)) =
            some (chars d (draft.inlined d) (piece :: rest)) := by
        rw [same] at known ordered
        rw [List.flatMap_cons, made, Dialect.fillFrom?_plain, ih known ordered, ← spelled]
        rfl
      cases piece with
      | text s => exact plain rfl s.toList rfl rfl
      | name s => exact plain rfl (d.quoteName s).toList rfl rfl
      | value v => exact plain rfl (d.literal v).toList rfl rfl
      | bound n =>
          have split : bounds (.bound n :: rest) = n :: bounds rest := rfl
          rw [split] at known ordered
          obtain ⟨inRange, restKnown⟩ := List.cons_subset.mp known
          have next (unnumbered : d.isNumbered = false) : n = k + 1 ∧
              bounds rest = List.range' (k + 1 + 1) (bounds rest).length := by
            have both := ordered unnumbered
            rw [List.length_cons, List.range'_succ] at both
            exact List.cons.inj both
          have value := Dialect.holeValue?_numberDigits inRange fun unnumbered =>
            (next unnumbered).1
          have others := ih (k := k + 1) restKnown fun unnumbered => (next unnumbered).2
          rw [List.flatMap_cons, Piece.stretches, List.singleton_append, Dialect.fillFrom?, value,
            others]
          rfl

/-- A drafted statement with placeholders is filled to the statement with literals. -/
theorem Draft.fill?_spell {draft : Draft} (terminated : Terminated (IsSplit d) draft.pieces)
    (addressed : draft.Addressed d) :
    d.fill? draft.params (draft.spell d d.placeholder) =
      some (draft.spell d (draft.inlined d)) := by
  have filled : d.fillFrom? draft.params 0 (draft.pieces.flatMap (Piece.stretches d)) =
      some (chars d (draft.inlined d) draft.pieces) := by
    refine fillFrom?_stretches addressed.known fun unnumbered => ?_
    rw [addressed.ordered unnumbered, List.length_range']
  rw [Dialect.fill?, stretches_spell terminated, filled, Option.map_some, ← toList_spell,
    String.ofList_toList]

/-! ## Statements -/

/-- A statement without parameters that is another one with literals in place of its
placeholders. -/
def Statement.Fills (d : Dialect) (statement inline : Statement) : Prop :=
  d.fill? statement.values statement.text = some inline.text ∧ inline.values = []

namespace Query

/-- Statements with placeholders and statements with literals fail alike, or they are as
many, and each with literals is the one with placeholders and every placeholder filled. -/
theorem statements_inline (d : Dialect) (query : Query) :
    (∃ e, query.statements d .placeholders = .error e ∧ query.statements d .inline = .error e) ∨
      ∃ set inlined, query.statements d .placeholders = .ok set ∧
        query.statements d .inline = .ok inlined ∧
        List.Forall₂ (Statement.Fills d) set inlined := by
  cases made : query.drafts d with
  | error e => exact .inl ⟨e, by rw [statements, made]; rfl, by rw [statements, made]; rfl⟩
  | ok drafts =>
      refine .inr ⟨drafts.map (Draft.statement d .placeholders),
        drafts.map (Draft.statement d .inline), by rw [statements, made]; rfl,
        by rw [statements, made]; rfl, ?_⟩
      rw [List.forall₂_map_left_iff, List.forall₂_map_right_iff, List.forall₂_same]
      intro draft mem
      exact ⟨Draft.fill?_spell (terminated_isSplit made mem) (addressed_of_mem_drafts made mem),
        rfl⟩

/-- A quoted sign stays as it is, and a number may come twice. -/
example : Dialect.postgres.fill? [.str "$1", .int 7] "SELECT '$1', $2 FROM \"$1\" WHERE $2 = $1;" =
    some "SELECT '$1', 7 FROM \"$1\" WHERE 7 = '$1';" := by
  decide

end Query

end Polyquery
