import Mathlib.Data.List.Basic
import Polyquery.Expression.Arity

/-!
# Nodes of expressions

The nodes of a tree are listed in the order in which a tree is walked when it is written:
a node comes before the nodes below it, and these come from left to right.  A node fits
if it has as many operands as its symbol asks for.
-/

namespace Polyquery

namespace Placement

theorem arity_eq_one_iff {p : Placement} : p.arity = 1 ↔ p = .before ∨ p = .after := by
  cases p <;> decide

theorem arity_eq_two_iff {p : Placement} : p.arity = 2 ↔ p = .between ∨ p = .joined := by
  cases p <;> decide

end Placement

namespace Expr

mutual

/-- The nodes of an expression, each as the expression that starts there. -/
def nodes : Expr → List Expr
  | .node symbol operands => .node symbol operands :: nodesOf operands

/-- The nodes of some expressions. -/
def nodesOf : List Expr → List Expr
  | [] => []
  | e :: rest => nodes e ++ nodesOf rest

end

/-- The symbol of an expression has the operands that it asks for.  Nothing is said of the
operands. -/
def Fits (e : Expr) : Prop :=
  e.operands.length = e.symbol.placement.arity

instance (e : Expr) : Decidable e.Fits :=
  inferInstanceAs (Decidable (_ = _))

/-- What is wrong with an expression that does not fit. -/
def arityError (e : Expr) : Error :=
  .generation (.arity e.symbol.described e.symbol.placement.arity e.operands.length)

theorem nodesOf_eq_flatMap (es : List Expr) : nodesOf es = es.flatMap nodes := by
  induction es with
  | nil => rfl
  | cons e rest ih => rw [nodesOf, ih, List.flatMap_cons]

/-! ## Forms that fit -/

variable {o : Operator}

theorem fits_unary_iff {operand : Expr} :
    (unary o operand).Fits ↔ o.placement = .before ∨ o.placement = .after := by
  rw [← Placement.arity_eq_one_iff, eq_comm]
  rfl

theorem fits_binary_iff {left right : Expr} :
    (binary o left right).Fits ↔ o.placement = .between ∨ o.placement = .joined := by
  rw [← Placement.arity_eq_two_iff, eq_comm]
  rfl

/-- Everything that fits stands alone, or is an operator with one or two operands. -/
theorem Fits.cases {e : Expr} (fits : e.Fits) :
    (e = .node e.symbol [] ∧ e.operator? = none) ∨ (∃ o operand, e = unary o operand) ∨
      ∃ o left right, e = binary o left right := by
  obtain ⟨symbol, operands⟩ := e
  cases symbol with
  | op o =>
      have few : o.placement.arity = 1 ∨ o.placement.arity = 2 := by cases o <;> decide
      rcases few with one | two
      · obtain ⟨operand, rfl⟩ := List.length_eq_one_iff.mp (fits.trans one)
        exact .inr (.inl ⟨o, operand, rfl⟩)
      · obtain ⟨left, right, rfl⟩ := List.length_eq_two.mp (fits.trans two)
        exact .inr (.inr ⟨o, left, right, rfl⟩)
  | literal value | reference name | command c =>
      obtain rfl := List.length_eq_zero_iff.mp fits
      exact .inl ⟨rfl, rfl⟩

/-! ## What hangs below leaves -/

mutual

/-- An expression without what hangs below its literals, references and commands. -/
def trimmed : Expr → Expr
  | .node (.op o) operands => .node (.op o) (trimmedOf operands)
  | .node symbol _ => .node symbol []

/-- Expressions without what hangs below their leaves. -/
def trimmedOf : List Expr → List Expr
  | [] => []
  | e :: rest => trimmed e :: trimmedOf rest

end

mutual

/-- If all nodes fit, nothing hangs below a leaf. -/
theorem trimmed_eq_self (e : Expr) (fits : ∀ node ∈ e.nodes, node.Fits) : e.trimmed = e := by
  obtain ⟨symbol, operands⟩ := e
  rw [nodes, List.forall_mem_cons] at fits
  cases symbol with
  | op o => rw [trimmed, trimmedOf_eq_self operands fits.2]
  | literal value | reference name | command c =>
      obtain rfl := List.length_eq_zero_iff.mp fits.1
      rfl

theorem trimmedOf_eq_self (es : List Expr) (fits : ∀ node ∈ nodesOf es, node.Fits) :
    trimmedOf es = es := by
  cases es with
  | nil => rfl
  | cons e rest =>
      rw [nodesOf, List.forall_mem_append] at fits
      rw [trimmedOf, trimmed_eq_self e fits.1, trimmedOf_eq_self rest fits.2]

end

theorem trimmed_eq_literal_iff {e : Expr} {value : Value} :
    e.trimmed = .literal value ↔ e.literal? = some value := by
  obtain ⟨symbol, operands⟩ := e
  cases symbol <;> simp [trimmed, literal, literal?, Expr.symbol]

theorem trimmed_eq_reference_iff {e : Expr} {name : String} :
    e.trimmed = .reference name ↔ e.reference? = some name := by
  obtain ⟨symbol, operands⟩ := e
  cases symbol <;> simp [trimmed, reference, reference?, Expr.symbol]

theorem trimmedOf_eq_singleton_iff {es : List Expr} {bare : Expr} :
    trimmedOf es = [bare] ↔ ∃ e, es = [e] ∧ e.trimmed = bare := by
  rcases es with _ | ⟨e, _ | ⟨second, rest⟩⟩ <;> simp [trimmedOf]

theorem trimmedOf_eq_pair_iff {es : List Expr} {first second : Expr} :
    trimmedOf es = [first, second] ↔
      ∃ left right, es = [left, right] ∧ left.trimmed = first ∧ right.trimmed = second := by
  rcases es with _ | ⟨left, _ | ⟨right, _ | ⟨third, rest⟩⟩⟩ <;> simp [trimmedOf]

theorem trimmed_eq_unary_iff {e bare : Expr} :
    e.trimmed = unary o bare ↔ ∃ operand, e = unary o operand ∧ operand.trimmed = bare := by
  obtain ⟨symbol, operands⟩ := e
  cases symbol <;> simp [trimmed, unary, trimmedOf_eq_singleton_iff, and_assoc]

theorem trimmed_eq_binary_iff {e first second : Expr} :
    e.trimmed = binary o first second ↔
      ∃ left right, e = binary o left right ∧ left.trimmed = first ∧ right.trimmed = second := by
  obtain ⟨symbol, operands⟩ := e
  cases symbol <;> simp [trimmed, binary, trimmedOf_eq_pair_iff, and_assoc]

theorem trimmed_eq_member_iff {e : Expr} {table column : String} :
    e.trimmed = member table column ↔ ∃ owner named, e = binary .member owner named ∧
      owner.reference? = some table ∧ named.reference? = some column := by
  change e.trimmed = binary .member (reference table) (reference column) ↔ _
  simp only [trimmed_eq_binary_iff, trimmed_eq_reference_iff]

end Expr

end Polyquery
