import Mathlib
import Polyquery.Proofs.Sql.Outline

/-!
# Regrouping

Two expressions are regroupings of each other if they differ in the grouping of nested
conjunctions and of nested disjunctions only.  A chain of one connective is determined up
to regrouping by its parts from left to right.  Merged into one, nested conjunctions and
nested disjunctions no longer show how they were grouped, which tells expressions apart
that are no regroupings of each other.
-/

namespace Polyquery.Expr

/-- The expressions that an operator joins, from left to right. -/
def parts (o : Operator) : Expr → List Expr
  | .node (.op p) [left, right] =>
    if p = o then left.parts o ++ right.parts o else [.node (.op p) [left, right]]
  | e => [e]

variable {o p : Operator} {e left right a b : Expr}

theorem parts_binary : (binary o left right).parts o = left.parts o ++ right.parts o := by
  rw [binary, parts, if_pos rfl]

theorem parts_of_ne (root : e.operator? ≠ some o) : e.parts o = [e] := by
  unfold parts
  split
  · split
    · rename_i same
      exact absurd (congrArg some same) root
    · rfl
  · rfl

theorem parts_ne_nil (o : Operator) (e : Expr) : e.parts o ≠ [] := by
  fun_induction parts o e with
  | case1 left right ihLeft ihRight => exact List.append_ne_nil_of_left_ne_nil ihLeft _
  | case2 => exact List.cons_ne_nil _ _
  | case3 => exact List.cons_ne_nil _ _

/-- What holds of all formulas of other operators, and of two formulas joined if it holds
of both, holds of every formula. -/
@[elab_as_elim]
theorem IsFormula.of_parts {motive : Expr → Prop} (connective : o.isConnective)
    (single : ∀ {e : Expr}, e.IsFormula → e.operator? ≠ some o → motive e)
    (both : ∀ {left right : Expr}, left.IsFormula → right.IsFormula → motive left →
      motive right → motive (.binary o left right))
    (formula : e.IsFormula) : motive e := by
  induction formula with
  | member table column =>
      refine single (.member table column) ?_
      rintro ⟨⟩
      cases connective
  | literal value => exact single (.literal value) nofun
  | unary alone inner =>
      refine single (.unary alone inner) ?_
      rintro ⟨⟩
      exact Operator.not_between_of_isUnary alone (Operator.between_of_isConnective connective)
  | @binary p left right between first second ihFirst ihSecond =>
      by_cases same : p = o
      · subst same
        exact both first second ihFirst ihSecond
      · exact single (.binary between first second) fun root => same (Option.some.inj root)

/-- What a connective joins are formulas of other operators. -/
theorem IsFormula.forall_mem_parts (formula : e.IsFormula) (connective : o.isConnective) :
    ∀ part ∈ e.parts o, part.IsFormula ∧ part.operator? ≠ some o := by
  refine formula.of_parts connective ?_ ?_
  · intro e formula root
    rw [parts_of_ne root, List.forall_mem_singleton]
    exact ⟨formula, root⟩
  · intro left right _ _ ofLeft ofRight
    rw [parts_binary, List.forall_mem_append]
    exact ⟨ofLeft, ofRight⟩

/-! ## Regroupings -/

/-- Equal up to the grouping of nested conjunctions and of nested disjunctions. -/
inductive Regroups : Expr → Expr → Prop
  | refl (e : Expr) : Regroups e e
  | symm {a b : Expr} (regroups : Regroups a b) : Regroups b a
  | trans {a b c : Expr} (first : Regroups a b) (second : Regroups b c) : Regroups a c
  | assoc {o : Operator} (connective : o.isConnective) (x y z : Expr) :
      Regroups (.binary o (.binary o x y) z) (.binary o x (.binary o y z))
  | unary (o : Operator) {a b : Expr} (inner : Regroups a b) :
      Regroups (.unary o a) (.unary o b)
  | binary (o : Operator) {a b left right : Expr} (first : Regroups left a)
      (second : Regroups right b) : Regroups (.binary o left right) (.binary o a b)

/-- Some expressions joined, grouped to the right. -/
def chained (o : Operator) : List Expr → Expr
  | [] => default
  | [e] => e
  | e :: next :: rest => .binary o e (chained o (next :: rest))

/-- Two chains joined are one chain. -/
theorem regroups_chained_append (connective : o.isConnective) {first second : List Expr}
    (firstSome : first ≠ []) (secondSome : second ≠ []) :
    Regroups (.binary o (chained o first) (chained o second)) (chained o (first ++ second)) := by
  induction first with
  | nil => exact absurd rfl firstSome
  | cons e rest ih =>
      cases rest with
      | nil =>
          cases second with
          | nil => exact absurd rfl secondSome
          | cons next others => exact .refl _
      | cons next others =>
          refine .trans (.assoc connective e (chained o (next :: others)) (chained o second)) ?_
          exact .binary o (.refl e) (ih (List.cons_ne_nil _ _))

/-- A formula is a regrouping of the chain of its parts. -/
theorem IsFormula.regroups_chained (formula : e.IsFormula) (connective : o.isConnective) :
    Regroups e (chained o (e.parts o)) := by
  refine formula.of_parts connective ?_ ?_
  · intro e _ root
    rw [parts_of_ne root]
    exact .refl e
  · intro left right _ _ ofLeft ofRight
    rw [parts_binary]
    refine .trans (.binary o ofLeft ofRight) ?_
    exact regroups_chained_append connective (parts_ne_nil o left) (parts_ne_nil o right)

/-- Chains of regroupings are regroupings. -/
theorem regroups_chained_of_forall₂ {es others : List Expr}
    (each : List.Forall₂ Regroups es others) : Regroups (chained o es) (chained o others) := by
  induction each with
  | nil => exact .refl _
  | cons first rest ih =>
      cases rest with
      | nil => exact first
      | cons _ _ => exact .binary o first ih

/-- Formulas with the same parts up to regrouping are regroupings. -/
theorem IsFormula.regroups_of_parts (aFormula : a.IsFormula) (bFormula : b.IsFormula)
    (connective : o.isConnective) (each : List.Forall₂ Regroups (a.parts o) (b.parts o)) :
    Regroups a b :=
  .trans (aFormula.regroups_chained connective) <|
    .trans (regroups_chained_of_forall₂ each) (bFormula.regroups_chained connective).symm

/-! ## Merged expressions -/

/-- What an expression stands for among the operands of an operator: its own operands if
both are the same connective, or else itself. -/
def merged (o : Operator) (e : Expr) : List Expr :=
  if o.isConnective ∧ e.operator? = some o then e.operands else [e]

/-- An expression with every conjunction in a conjunction, and every disjunction in a
disjunction, merged into it. -/
def flattened : Expr → Expr
  | .node (.op o) [operand] => .node (.op o) [operand.flattened]
  | .node (.op o) [left, right] =>
    .node (.op o) (left.flattened.merged o ++ right.flattened.merged o)
  | e => e

theorem flattened_unary : (unary o e).flattened = unary o e.flattened := by
  rw [unary, flattened]
  rfl

theorem flattened_binary :
    (binary o left right).flattened =
      .node (.op o) (left.flattened.merged o ++ right.flattened.merged o) := by
  rw [binary, flattened]

theorem flattened_comparison (comparison : o.isComparison) :
    (binary o left right).flattened = binary o left.flattened right.flattened := by
  rw [flattened_binary, merged, merged, Operator.isConnective_of_isComparison comparison]
  rfl

theorem operator?_flattened (e : Expr) : e.flattened.operator? = e.operator? := by
  unfold flattened
  split <;> rfl

theorem merged_node (connective : o.isConnective) (operands : List Expr) :
    (node (.op o) operands).merged o = operands :=
  if_pos ⟨connective, rfl⟩

/-- Merged expressions do not show the grouping. -/
theorem Regroups.flattened_eq (regroups : Regroups a b) : a.flattened = b.flattened := by
  induction regroups with
  | refl e => rfl
  | symm _ ih => exact ih.symm
  | trans _ _ ihFirst ihSecond => exact ihFirst.trans ihSecond
  | assoc connective x y z =>
      simp only [flattened_binary, merged_node connective, List.append_assoc]
  | unary o _ ih => rw [flattened_unary, flattened_unary, ih]
  | binary o _ _ ihFirst ihSecond => rw [flattened_binary, flattened_binary, ihFirst, ihSecond]

end Polyquery.Expr
