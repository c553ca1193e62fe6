import Mathlib
import Polyquery.Proofs.Sql.Confusion

/-!
# What the text of a formula tells

The outline of a formula is taken apart again: a connective stands in the outline of its
own chains only, a comparison that is confused with no other one stands there once, and
operators that are not confused stand all on one side of their operand.  So a formula in
which no operators are confused is told by its text and its values, up to the grouping of
conjunctions and of disjunctions; any other formula has a twin.
-/

namespace Polyquery

open Sql

/-! ## Operators in an outline -/

namespace Expr

variable {o p : Operator} {e left right a b : Expr} {signs : List Sign}

theorem op_mem_operandOutline :
    .op o ∈ e.operandOutline p ↔ p.encloses e = false ∧ .op o ∈ e.outline := by
  rw [operandOutline, grouped]
  split <;> simp_all

theorem op_mem_outline_unary (alone : p.isUnary) :
    .op o ∈ (unary p e).outline ↔ o = p ∨ .op o ∈ e.operandOutline p := by
  rcases Operator.placement_of_isUnary alone with before | after
  · simp [outline_before before]
  · simp [outline_after after, or_comm]

theorem op_mem_outline_binary :
    .op o ∈ (binary p left right).outline ↔
      o = p ∨ .op o ∈ left.operandOutline p ∨ .op o ∈ right.operandOutline p := by
  simp [outline_binary, or_left_comm]

theorem op_mem_outline_member {table column : String} :
    .op o ∈ (member table column).outline ↔ o = .member := by
  simp [outline_member]

theorem op_not_mem_outline_literal {value : Value} : .op o ∉ (literal value).outline := by
  simp [outline_literal]

namespace IsFormula

/-- The operator of a formula stands in its outline. -/
theorem op_mem_outline (formula : e.IsFormula) (root : e.operator? = some o) :
    .op o ∈ e.outline := by
  cases formula with
  | member table column =>
      cases root
      exact op_mem_outline_member.mpr rfl
  | literal value => cases root
  | unary alone inner =>
      cases root
      exact (op_mem_outline_unary alone).mpr (.inl rfl)
  | binary between first second =>
      cases root
      exact op_mem_outline_binary.mpr (.inl rfl)

/-- A connective stands in the outline of its own expressions only. -/
theorem operator?_of_connective (formula : e.IsFormula) (connective : o.isConnective)
    (mem : .op o ∈ e.outline) : e.operator? = some o := by
  -- under any other operator parentheses are written around it
  have apart {p : Operator} {x : Expr} (ih : .op o ∈ x.outline → x.operator? = some o)
      (inside : .op o ∈ x.operandOutline p) : o = p := by
    obtain ⟨bare, shown⟩ := op_mem_operandOutline.mp inside
    by_contra different
    rw [Operator.encloses_of_isConnective connective (ih shown) different] at bare
    cases bare
  induction formula with
  | member table column =>
      rw [op_mem_outline_member.mp mem] at connective
      cases connective
  | literal value => exact absurd mem op_not_mem_outline_literal
  | unary alone inner ih =>
      rcases (op_mem_outline_unary alone).mp mem with rfl | inside
      · rfl
      · rw [apart ih inside]
        rfl
  | binary between first second ihFirst ihSecond =>
      rcases op_mem_outline_binary.mp mem with rfl | inside | inside
      · rfl
      · rw [apart ihFirst inside]
        rfl
      · rw [apart ihSecond inside]
        rfl

/-- An operator between two operands stands in the outline of such expressions only. -/
theorem operator?_of_between (formula : e.IsFormula) (between : o.placement = .between)
    (mem : .op o ∈ e.outline) : ∃ p, e.operator? = some p ∧ p.placement = .between := by
  induction formula with
  | member table column =>
      rw [op_mem_outline_member.mp mem] at between
      cases between
  | literal value => exact absurd mem op_not_mem_outline_literal
  | @unary p operand alone inner ih =>
      rcases (op_mem_outline_unary alone).mp mem with rfl | inside
      · exact ⟨o, rfl, between⟩
      · obtain ⟨bare, shown⟩ := op_mem_operandOutline.mp inside
        obtain ⟨q, root, qBetween⟩ := ih shown
        rw [Operator.encloses_of_between alone root qBetween] at bare
        cases bare
  | @binary p left right pBetween first second ihFirst ihSecond => exact ⟨p, rfl, pBetween⟩

/-- Where nothing is confused, all operators in front of and behind one operand stand on
the same side of it. -/
theorem placement_eq_of_op_mem (formula : e.IsFormula) (unmixed : e.mixes = false)
    (root : e.operator? = some p) (alone : p.isUnary) (notMember : o ≠ .member)
    (mem : .op o ∈ e.outline) : o.placement = p.placement := by
  induction formula generalizing p with
  | member table column => exact absurd (op_mem_outline_member.mp mem) notMember
  | literal value => cases root
  | @unary p operand _ inner ih =>
      cases root
      rw [mixes_unary, Bool.or_eq_false_iff] at unmixed
      rcases (op_mem_outline_unary alone).mp mem with rfl | inside
      · rfl
      obtain ⟨bare, shown⟩ := op_mem_operandOutline.mp inside
      -- nothing but another such operator shows what stands under it
      have below : ∃ q, operand.operator? = some q ∧ q.isUnary := by
        cases inner with
        | member table column => exact absurd (op_mem_outline_member.mp shown) notMember
        | literal value => exact absurd shown op_not_mem_outline_literal
        | @unary q _ qAlone _ => exact ⟨q, rfl, qAlone⟩
        | binary between _ _ =>
            rw [Operator.encloses_of_between alone rfl between] at bare
            cases bare
      obtain ⟨q, below, qAlone⟩ := below
      have sameSide : p.placement = q.placement := by
        have notConfused := unmixed.1
        rw [Operator.confuses, below] at notConfused
        simpa [alone, qAlone] using (Bool.or_eq_false_iff.mp notConfused).2
      rw [sameSide]
      exact ih unmixed.2 below qAlone shown
  | @binary q left right between first second ihFirst ihSecond =>
      cases root
      exact absurd between (Operator.not_between_of_isUnary alone)

/-- An outline is never one group. -/
theorem outline_ne_group (formula : e.IsFormula) : e.outline ≠ [.group signs] := by
  cases root : e.operator? with
  | none =>
      cases formula with
      | literal value => exact nofun
      | _ => cases root
  | some o =>
      intro same
      have mem := formula.op_mem_outline root
      rw [same] at mem
      simp at mem

/-- Operands that look alike are formulas that look alike. -/
theorem outline_eq_of_operandOutline (aFormula : a.IsFormula) (bFormula : b.IsFormula)
    (same : a.operandOutline o = b.operandOutline p) : a.outline = b.outline := by
  rw [operandOutline, operandOutline, grouped, grouped] at same
  split at same
  · split at same
    · simpa using same
    · exact absurd same.symm bFormula.outline_ne_group
  · split at same
    · exact absurd same aFormula.outline_ne_group
    · exact same

end IsFormula

/-! ## Chains in an outline -/

theorem intercalate_append {α : Type} {separator : List α} {first second : List (List α)}
    (firstSome : first ≠ []) (secondSome : second ≠ []) :
    separator.intercalate (first ++ second) =
      separator.intercalate first ++ separator ++ separator.intercalate second := by
  induction first with
  | nil => exact absurd rfl firstSome
  | cons items rest ih =>
      cases rest with
      | nil =>
          cases second with
          | nil => exact absurd rfl secondSome
          | cons more others => simp [List.intercalate_singleton, List.intercalate_cons_cons]
      | cons next others =>
          have tail := ih (List.cons_ne_nil _ _)
          simp only [List.cons_append, List.intercalate_cons_cons, List.append_assoc] at tail ⊢
          rw [tail]

theorem operandOutline_self :
    (binary o left right).operandOutline o = (binary o left right).outline := by
  rw [operandOutline, Operator.encloses_self]
  rfl

/-- The outline of a chain is that of its parts with the connective between them. -/
theorem IsFormula.operandOutline_eq (formula : e.IsFormula) (connective : o.isConnective) :
    e.operandOutline o = [.op o].intercalate ((e.parts o).map (operandOutline o)) := by
  refine formula.of_parts connective ?_ ?_
  · intro e _ root
    rw [parts_of_ne root, List.map_singleton, List.intercalate_singleton]
  · intro left right _ _ ofLeft ofRight
    rw [operandOutline_self, parts_binary, List.map_append, intercalate_append, ← ofLeft,
      ← ofRight, outline_binary, List.append_assoc]
    · rfl
    · exact fun none => parts_ne_nil o left (List.map_eq_nil_iff.mp none)
    · exact fun none => parts_ne_nil o right (List.map_eq_nil_iff.mp none)

/-- No connective stands in the outline of what it joins. -/
theorem IsFormula.op_not_mem_part (formula : e.IsFormula) (connective : o.isConnective) :
    ∀ signs ∈ (e.parts o).map (operandOutline o), .op o ∉ signs := by
  rw [List.forall_mem_map]
  intro part mem inside
  obtain ⟨partFormula, other⟩ := formula.forall_mem_parts connective part mem
  exact other (partFormula.operator?_of_connective connective (op_mem_operandOutline.mp inside).2)

/-- The outline of a chain cut at the connective. -/
theorem map_operandOutline_parts (formula : (binary o left right).IsFormula)
    (connective : o.isConnective) [BEq Sign] [LawfulBEq Sign] :
    ((binary o left right).parts o).map (operandOutline o) =
      (binary o left right).outline.splitOn (.op o) := by
  rw [← operandOutline_self, formula.operandOutline_eq connective]
  refine (List.splitOn_intercalate _ (formula.op_not_mem_part connective) ?_).symm
  exact fun none => parts_ne_nil o _ (List.map_eq_nil_iff.mp none)

/-- No operator between two operands stands in the outline of an operand that a comparison
is not confused with. -/
theorem IsFormula.op_not_mem_operandOutline (formula : e.IsFormula)
    (comparison : o.isComparison) (unconfused : o.confuses e = false)
    (between : p.placement = .between) : .op p ∉ e.operandOutline o := by
  intro inside
  obtain ⟨bare, shown⟩ := op_mem_operandOutline.mp inside
  obtain ⟨q, root, qBetween⟩ := formula.operator?_of_between between shown
  rw [Operator.encloses_of_isComparison comparison, root] at bare
  rcases Operator.between_iff.mp qBetween with qComparison | connective
  · simp [Operator.confuses, root, comparison, qComparison] at unconfused
  · exact absurd connective (Bool.eq_false_iff.mp bare)

/-! ## What an outline tells -/

/-- An expression is told by its outline: only its regroupings have the same. -/
def IsTold (e : Expr) : Prop :=
  ∀ other : Expr, other.IsFormula → e.outline = other.outline → Regroups e other

theorem isTold_literal (value : Value) : (literal value).IsTold := by
  intro other formula same
  have root : other.operator? = none := by
    by_contra some
    obtain ⟨o, root⟩ := Option.ne_none_iff_exists'.mp some
    exact op_not_mem_outline_literal (same ▸ formula.op_mem_outline root)
  cases formula with
  | literal v =>
      cases same
      exact .refl _
  | _ => cases root

theorem isTold_member (table column : String) : (member table column).IsTold := by
  intro other formula same
  have root : ∀ o, other.operator? = some o → o = .member := fun o root =>
    op_mem_outline_member.mp (same ▸ formula.op_mem_outline root)
  cases formula with
  | member otherTable otherColumn =>
      cases same
      exact .refl _
  | literal value => cases same
  | unary alone inner =>
      cases root _ rfl
      cases alone
  | binary between first second =>
      cases root _ rfl
      cases between

/-- Formulas that are told one by one by their outlines are told together. -/
theorem forall₂_regroups {es others : List Expr} (told : ∀ e ∈ es, e.IsFormula ∧ e.IsTold)
    (formulas : ∀ e ∈ others, e.IsFormula)
    (same : es.map (operandOutline o) = others.map (operandOutline o)) :
    List.Forall₂ Regroups es others := by
  induction es generalizing others with
  | nil =>
      obtain rfl := List.map_eq_nil_iff.mp same.symm
      exact .nil
  | cons e rest ih =>
      cases others with
      | nil => cases same
      | cons other others =>
          obtain ⟨⟨formula, firstTold⟩, restTold⟩ := List.forall_mem_cons.mp told
          obtain ⟨otherFormula, othersFormulas⟩ := List.forall_mem_cons.mp formulas
          obtain ⟨sameFirst, sameRest⟩ := List.cons.inj same
          have sameOutline := formula.outline_eq_of_operandOutline otherFormula sameFirst
          exact .cons (firstTold other otherFormula sameOutline)
            (ih restTold othersFormulas sameRest)

theorem isTold_connective (connective : o.isConnective)
    (formula : (binary o left right).IsFormula)
    (told : ∀ part ∈ (binary o left right).parts o, part.IsTold) :
    (binary o left right).IsTold := by
  classical
  intro other otherFormula same
  have root : other.operator? = some o :=
    otherFormula.operator?_of_connective connective (same ▸ formula.op_mem_outline rfl)
  obtain ⟨otherLeft, otherRight, rfl, -⟩ :=
    otherFormula.of_between root (Operator.between_of_isConnective connective)
  -- both outlines are the same text, cut at the same connective
  have sameParts := map_operandOutline_parts formula connective
  rw [same, ← map_operandOutline_parts otherFormula connective] at sameParts
  refine formula.regroups_of_parts otherFormula connective (forall₂_regroups ?_ ?_ sameParts)
  · exact fun part mem => ⟨(formula.forall_mem_parts connective part mem).1, told part mem⟩
  · exact fun part mem => (otherFormula.forall_mem_parts connective part mem).1

theorem isTold_comparison (comparison : o.isComparison) (leftFormula : left.IsFormula)
    (rightFormula : right.IsFormula) (unmixed : (binary o left right).mixes = false)
    (leftTold : left.IsTold) (rightTold : right.IsTold) : (binary o left right).IsTold := by
  intro other otherFormula same
  have between : o.placement = .between := Operator.between_iff.mpr (.inl comparison)
  have formula : (binary o left right).IsFormula := .binary between leftFormula rightFormula
  simp only [mixes_binary, Bool.or_eq_false_iff] at unmixed
  obtain ⟨p, root, otherBetween⟩ :=
    otherFormula.operator?_of_between between (same ▸ formula.op_mem_outline rfl)
  obtain ⟨otherLeft, otherRight, rfl, otherFirst, otherSecond⟩ :=
    otherFormula.of_between root otherBetween
  -- neither operand shows such an operator, so both outlines are cut at the same place
  have notLeft := leftFormula.op_not_mem_operandOutline comparison unmixed.1.1.1 otherBetween
  have notRight := rightFormula.op_not_mem_operandOutline comparison unmixed.1.1.2 otherBetween
  rw [outline_binary, outline_binary, List.append_cons_inj_of_notMem notLeft notRight] at same
  obtain ⟨sameLeft, ⟨⟩, sameRight⟩ := same
  refine .binary o (leftTold otherLeft otherFirst ?_) (rightTold otherRight otherSecond ?_)
  · exact leftFormula.outline_eq_of_operandOutline otherFirst sameLeft
  · exact rightFormula.outline_eq_of_operandOutline otherSecond sameRight

theorem isTold_unary (alone : o.isUnary) (inner : e.IsFormula)
    (unmixed : (unary o e).mixes = false) (told : e.IsTold) : (unary o e).IsTold := by
  intro other otherFormula same
  have formula : (unary o e).IsFormula := .unary alone inner
  have shown : .op o ∈ other.outline := same ▸ formula.op_mem_outline rfl
  cases otherFormula with
  | member table column =>
      cases op_mem_outline_member.mp shown
      cases alone
  | literal value => exact absurd shown op_not_mem_outline_literal
  | @binary p left right between first second =>
      have otherShown : .op p ∈ (unary o e).outline :=
        same ▸ op_mem_outline_binary.mpr (.inl rfl)
      obtain ⟨q, root, qBetween⟩ := formula.operator?_of_between between otherShown
      cases root
      exact absurd qBetween (Operator.not_between_of_isUnary alone)
  | @unary p operand otherAlone otherInner =>
      have otherShown : .op p ∈ (unary o e).outline :=
        same ▸ (op_mem_outline_unary otherAlone).mpr (.inl rfl)
      have notMember : p ≠ .member := by
        rintro rfl
        cases otherAlone
      -- both stand first, or both stand last
      have sameSide := formula.placement_eq_of_op_mem unmixed rfl alone notMember otherShown
      have both : p = o ∧ e.operandOutline o = operand.operandOutline p := by
        rcases Operator.placement_of_isUnary alone with before | after
        · rw [outline_before before, outline_before (sameSide.trans before)] at same
          obtain ⟨sameOp, sameOperand⟩ := List.cons.inj same
          exact ⟨(Sign.op.inj sameOp).symm, sameOperand⟩
        · rw [outline_after after, outline_after (sameSide.trans after)] at same
          obtain ⟨sameOperand, sameOp⟩ := List.append_inj' same rfl
          exact ⟨(Sign.op.inj (List.cons.inj sameOp).1).symm, sameOperand⟩
      obtain ⟨rfl, sameOperand⟩ := both
      exact .unary p (told operand otherInner
        (inner.outline_eq_of_operandOutline otherInner sameOperand))

/-- What is told and joined by no connective is its only part. -/
theorem IsTold.forall_mem_parts (told : e.IsTold) (single : e.operator? ≠ some o) :
    ∀ part ∈ e.parts o, part.IsTold := by
  rw [parts_of_ne single, List.forall_mem_singleton]
  exact told

/-- A formula in which no operators are confused is told by its outline, and so is every
part of it. -/
theorem IsFormula.isTold (formula : e.IsFormula) (unmixed : e.mixes = false) :
    e.IsTold ∧ ∀ o : Operator, o.isConnective → ∀ part ∈ e.parts o, part.IsTold := by
  induction formula with
  | member table column =>
      have told := isTold_member table column
      refine ⟨told, fun o connective => told.forall_mem_parts ?_⟩
      rintro ⟨⟩
      cases connective
  | literal value =>
      have told := isTold_literal value
      exact ⟨told, fun o _ => told.forall_mem_parts nofun⟩
  | @unary p operand alone inner ih =>
      have innerUnmixed := (Bool.or_eq_false_iff.mp (mixes_unary ▸ unmixed)).2
      have told := isTold_unary alone inner unmixed (ih innerUnmixed).1
      refine ⟨told, fun o connective => told.forall_mem_parts ?_⟩
      rintro ⟨⟩
      exact Operator.not_between_of_isUnary alone (Operator.between_of_isConnective connective)
  | @binary p left right between first second ihFirst ihSecond =>
      have unmixedOperands := unmixed
      simp only [mixes_binary, Bool.or_eq_false_iff] at unmixedOperands
      obtain ⟨leftTold, leftParts⟩ := ihFirst unmixedOperands.1.2
      obtain ⟨rightTold, rightParts⟩ := ihSecond unmixedOperands.2
      rcases Operator.between_iff.mp between with comparison | connective
      · have told := isTold_comparison comparison first second unmixed leftTold rightTold
        refine ⟨told, fun o connective => told.forall_mem_parts ?_⟩
        rintro ⟨⟩
        rw [Operator.isConnective_of_isComparison comparison] at connective
        cases connective
      · -- the parts of a chain are told before the chain is
        have parts : ∀ part ∈ (Expr.binary p left right).parts p, part.IsTold := by
          rw [parts_binary, List.forall_mem_append]
          exact ⟨leftParts p connective, rightParts p connective⟩
        have told := isTold_connective connective (.binary between first second) parts
        refine ⟨told, fun o _ => ?_⟩
        by_cases same : p = o
        · exact same ▸ parts
        · exact told.forall_mem_parts fun root => same (Option.some.inj root)

/-! ## Texts -/

/-- For each dialect, a formula has a text with placeholders, and every formula with its
text and its values is a regrouping of it exactly if no operator in it stands directly under
one that it is confused with. -/
theorem IsFormula.regroups_iff (d : Dialect) (formula : a.IsFormula) :
    ∃ statement, a.statement d = .ok statement ∧
      ((∀ b : Expr, b.IsFormula → b.statement d = .ok statement → Regroups a b) ↔
        a.mixes = false) := by
  refine ⟨_, formula.complete.statement_eq, ?_, ?_⟩
  · intro regroups
    by_contra mixed
    obtain ⟨b, twins⟩ := formula.exists_twins (by simpa using mixed)
    refine twins.different (regroups b twins.second ?_).flattened_eq
    rw [twins.second.complete.statement_eq, twins.pieces, twins.literals]
  · intro unmixed b otherFormula same
    rw [← formula.complete.statement_eq] at same
    exact (formula.isTold unmixed).1 b otherFormula (formula.outline_eq otherFormula same.symm)

/-- A column of the films. -/
def film (column : String) : Expr :=
  .member "films" column

/-- The films that are not from 1964 and have a title. -/
def otherFilms : Expr :=
  .unary .not (.binary .or (.binary .eq (film "year") (.literal (.int 1964)))
    (.unary .isNull (film "title")))

theorem regroups_iff_otherFilms :
    otherFilms.IsFormula ∧ otherFilms.mixes = false ∧
      ∃ statement, otherFilms.statement .postgres = .ok statement ∧
        ((∀ b : Expr, b.IsFormula → b.statement .postgres = .ok statement →
            Regroups otherFilms b) ↔ otherFilms.mixes = false) := by
  have formula : otherFilms.IsFormula :=
    .unary rfl (.binary rfl (.binary rfl (.member _ _) (.literal _)) (.unary rfl (.member _ _)))
  exact ⟨formula, rfl, formula.regroups_iff .postgres⟩

/-- A statement of two formulas that are no regroupings of each other. -/
structure Ambiguous (d : Dialect) (statement : Statement) (a b : Expr) : Prop where
  first : a.IsFormula
  second : b.IsFormula
  ofFirst : a.statement d = .ok statement
  ofSecond : b.statement d = .ok statement
  different : ¬Regroups a b

/-- `NOT` and a test for null, and a chain of comparisons, with one text for two
groupings. -/
theorem ambiguous_films :
    Ambiguous .mysql ⟨"NOT `films`.`seen` IS NULL", []⟩
      (.unary .not (.unary .isNull (film "seen"))) (.unary .isNull (.unary .not (film "seen"))) ∧
    Ambiguous .postgres ⟨"\"films\".\"seen\" = \"films\".\"liked\" = $1", [.bool true]⟩
      (.binary .eq (.binary .eq (film "seen") (film "liked")) (.literal (.bool true)))
      (.binary .eq (film "seen") (.binary .eq (film "liked") (.literal (.bool true)))) := by
  constructor
  · exact ⟨.unary rfl (.unary rfl (.member _ _)), .unary rfl (.unary rfl (.member _ _)), rfl, rfl,
      fun regroups => nomatch regroups.flattened_eq⟩
  · exact ⟨.binary rfl (.binary rfl (.member _ _) (.member _ _)) (.literal _),
      .binary rfl (.member _ _) (.binary rfl (.member _ _) (.literal _)), rfl, rfl,
      fun regroups => nomatch regroups.flattened_eq⟩

end Expr

end Polyquery
