import Polyquery.Document.Filter
import Polyquery.Proofs.Result
import Polyquery.Sql.Term
import Polyquery.Sql.Truth

/-!
# The truth of conditions

A condition is true, false or unknown once every column has a value.  How two values
compare is left open, but whatever is compared with null is unknown.  The same holds
for conditions in documents, in queries and in the text of statements, and a condition
of a document means the same as the expression it becomes.
-/

namespace Polyquery

open Sql

/-! ## Truth values -/

namespace Sql

@[simp]
theorem and3_true (p : Truth) : and3 p (some true) = p := by
  rcases p with _ | _ | _ <;> rfl

@[simp]
theorem or3_false (p : Truth) : or3 p (some false) = p := by
  rcases p with _ | _ | _ <;> rfl

theorem and3_assoc (p q r : Truth) : and3 (and3 p q) r = and3 p (and3 q r) := by
  rcases p with _ | _ | _ <;> rcases q with _ | _ | _ <;> rcases r with _ | _ | _ <;> rfl

theorem or3_assoc (p q r : Truth) : or3 (or3 p q) r = or3 p (or3 q r) := by
  rcases p with _ | _ | _ <;> rcases q with _ | _ | _ <;> rcases r with _ | _ | _ <;> rfl

/-- Whether all of some truth values hold. -/
def all3 : List Truth → Truth
  | [] => some true
  | p :: rest => and3 p (all3 rest)

/-- Whether any of some truth values holds. -/
def any3 : List Truth → Truth
  | [] => some false
  | p :: rest => or3 p (any3 rest)

theorem foldl_and3 (p : Truth) (rest : List Truth) : rest.foldl and3 p = all3 (p :: rest) := by
  induction rest generalizing p with
  | nil => exact (and3_true p).symm
  | cons q rest ih =>
      rw [List.foldl_cons, ih]
      exact and3_assoc p q (all3 rest)

theorem foldl_or3 (p : Truth) (rest : List Truth) : rest.foldl or3 p = any3 (p :: rest) := by
  induction rest generalizing p with
  | nil => exact (or3_false p).symm
  | cons q rest ih =>
      rw [List.foldl_cons, ih]
      exact or3_assoc p q (any3 rest)

/-! ## Assignments -/

/-- The values of the columns, and how values that are not null compare. -/
structure Assignment where
  column : String → Value
  compare : Operator → Value → Value → Truth

namespace Assignment

variable (assignment : Assignment)

/-- A comparison; unknown if a side is null. -/
def compares (o : Operator) (a b : Value) : Truth :=
  if a.isNull || b.isNull then none else assignment.compare o a b

end Assignment

/-- A test for null, which is never unknown. -/
def isNull3 (value : Value) : Truth :=
  some value.isNull

/-- The comparison that a connector makes. -/
def Connector.comparison? : Connector → Option Operator
  | .eq => some .eq
  | .ne => some .ne
  | .lt => some .lt
  | .le => some .le
  | .gt => some .gt
  | .ge => some .ge
  | _ => none

namespace Term

/-- The value of an operand: a column of the table, a literal or a parameter. -/
def value? (table : String) (params : List Value) (assignment : Assignment) :
    Term ColumnName → Option Value
  | name ⟨[owner], _, column⟩ => if owner = table then some (assignment.column column) else none
  | value v => some v
  | parameter n => params[n - 1]?
  | _ => none

/-- The truth value of a condition over the columns of a table; none if the term is no
such condition. -/
def truth? (table : String) (params : List Value) (assignment : Assignment) :
    Term ColumnName → Option Truth
  | not operand => do return not3 (← operand.truth? table params assignment)
  | join .and left right => do
    return and3 (← left.truth? table params assignment) (← right.truth? table params assignment)
  | join .or left right => do
    return or3 (← left.truth? table params assignment) (← right.truth? table params assignment)
  | join .is left (value .null) => do
    return isNull3 (← left.value? table params assignment)
  | join .isNot left (value .null) => do
    return not3 (isNull3 (← left.value? table params assignment))
  | join connector left right => do
    return assignment.compares (← connector.comparison?)
      (← left.value? table params assignment) (← right.value? table params assignment)
  | _ => none

end Term

end Sql

/-! ## Conditions of queries -/

namespace Expr

/-- A condition over the columns of a table. -/
inductive IsCondition (table : String) : Expr → Prop
  | compare (column : String) (value : Value) {o : Operator} (comparison : o.isComparison) :
      IsCondition table (.binary o (.member table column) (.literal value))
  | isNull (column : String) : IsCondition table (.unary .isNull (.member table column))
  | isNotNull (column : String) : IsCondition table (.unary .isNotNull (.member table column))
  | not {e : Expr} (inner : IsCondition table e) : IsCondition table (.unary .not e)
  | and {left right : Expr} (first : IsCondition table left)
      (second : IsCondition table right) : IsCondition table (.binary .and left right)
  | or {left right : Expr} (first : IsCondition table left)
      (second : IsCondition table right) : IsCondition table (.binary .or left right)

/-- The value of an operand. -/
def value (assignment : Assignment) : Expr → Value
  | .node (.op .member) [_, .node (.reference column) _] => assignment.column column
  | .node (.literal v) _ => v
  | _ => .null

/-- The truth value of a condition. -/
def truth (assignment : Assignment) : Expr → Truth
  | .node (.op .and) [left, right] => and3 (left.truth assignment) (right.truth assignment)
  | .node (.op .or) [left, right] => or3 (left.truth assignment) (right.truth assignment)
  | .node (.op .not) [operand] => not3 (operand.truth assignment)
  | .node (.op .isNull) [operand] => isNull3 (operand.value assignment)
  | .node (.op .isNotNull) [operand] => not3 (isNull3 (operand.value assignment))
  | .node (.op o) [left, right] =>
    assignment.compares o (left.value assignment) (right.value assignment)
  | _ => none

end Expr

/-! ## Conditions of documents -/

namespace Filter

mutual

/-- The truth value of a filter. -/
def truth (assignment : Assignment) : Filter → Truth
  | .all filters => all3 (truths assignment filters)
  | .any filters => any3 (truths assignment filters)
  | .not filter => not3 (truth assignment filter)
  | .compare column .isNull _ => isNull3 (assignment.column column)
  | .compare column .isNotNull _ => not3 (isNull3 (assignment.column column))
  | .compare column comparison value =>
    assignment.compares comparison.operator (assignment.column column) (Value.ofJson value)

/-- The truth values of some filters. -/
def truths (assignment : Assignment) : List Filter → List Truth
  | [] => []
  | filter :: rest => truth assignment filter :: truths assignment rest

end

variable {table : Table}

theorem member_of_column {column : String} {e : Expr} (found : table.column column = .ok e) :
    e = .member table.name column :=
  (Table.column_eq_ok_iff.mp found).2

/-- Conditions that are combined are one condition. -/
theorem isCondition_foldl {o : Operator} (connects : o = .and ∨ o = .or) {first : Expr}
    {rest : List Expr} (firstIs : first.IsCondition table.name)
    (restAre : ∀ e ∈ rest, e.IsCondition table.name) :
    (rest.foldl (Expr.binary o) first).IsCondition table.name := by
  induction rest generalizing first with
  | nil => exact firstIs
  | cons e rest ih =>
      rw [List.foldl_cons]
      apply ih
      · have second := restAre e List.mem_cons_self
        rcases connects with rfl | rfl
        · exact .and firstIs second
        · exact .or firstIs second
      · intro other mem
        exact restAre other (List.mem_cons_of_mem e mem)

theorem truth_foldl (assignment : Assignment) (o : Operator) (connect : Truth → Truth → Truth)
    (meaning : ∀ left right : Expr, (Expr.binary o left right).truth assignment =
      connect (left.truth assignment) (right.truth assignment)) (first : Expr) (rest : List Expr) :
    (rest.foldl (Expr.binary o) first).truth assignment =
      (rest.map (Expr.truth assignment)).foldl connect (first.truth assignment) := by
  induction rest generalizing first with
  | nil => rfl
  | cons e rest ih => rw [List.foldl_cons, ih, meaning, List.map_cons, List.foldl_cons]

/-- A comparison keeps its meaning. -/
theorem compareExpr_means (column : String) (comparison : Comparison) (json : Json) :
    (compareExpr (.member table.name column) comparison.operator json).IsCondition table.name ∧
      ∀ assignment : Assignment,
        (compareExpr (.member table.name column) comparison.operator json).truth assignment =
          truth assignment (.compare column comparison json) := by
  cases comparison with
  | isNull => exact ⟨.isNull column, fun _ => rfl⟩
  | isNotNull => exact ⟨.isNotNull column, fun _ => rfl⟩
  | eq => exact ⟨.compare column _ rfl, fun _ => rfl⟩
  | ne => exact ⟨.compare column _ rfl, fun _ => rfl⟩
  | lt => exact ⟨.compare column _ rfl, fun _ => rfl⟩
  | le => exact ⟨.compare column _ rfl, fun _ => rfl⟩
  | gt => exact ⟨.compare column _ rfl, fun _ => rfl⟩
  | ge => exact ⟨.compare column _ rfl, fun _ => rfl⟩

/-- A combination keeps its meaning. -/
theorem combine_means {form : String} {o : Operator} {es : List Expr} {e : Expr}
    (connects : o = .and ∨ o = .or) (combined : combine form o es = .ok e)
    (are : ∀ e ∈ es, e.IsCondition table.name) :
    e.IsCondition table.name ∧ ∀ assignment : Assignment, e.truth assignment =
      match o with
      | .and => all3 (es.map (Expr.truth assignment))
      | _ => any3 (es.map (Expr.truth assignment)) := by
  cases es with
  | nil => cases combined
  | cons first rest =>
      cases combined
      constructor
      · apply isCondition_foldl connects
        · exact are first List.mem_cons_self
        · exact fun other mem => are other (List.mem_cons_of_mem first mem)
      · intro assignment
        rcases connects with rfl | rfl
        · rw [truth_foldl assignment .and and3 fun _ _ => rfl, foldl_and3, List.map_cons]
        · rw [truth_foldl assignment .or or3 fun _ _ => rfl, foldl_or3, List.map_cons]

mutual

/-- The expression of a filter is a condition with the truth value of the filter. -/
theorem toExpr_means {filter : Filter} {e : Expr} (ok : toExpr table filter = .ok e) :
    e.IsCondition table.name ∧
      ∀ assignment : Assignment, e.truth assignment = truth assignment filter := by
  cases filter with
  | all filters =>
      rw [toExpr, Result.bind_eq_ok] at ok
      obtain ⟨es, each, combined⟩ := ok
      obtain ⟨are, mean⟩ := toExprs_mean each
      obtain ⟨isCondition, means⟩ := combine_means (.inl rfl) combined are
      refine ⟨isCondition, fun assignment => ?_⟩
      rw [means assignment, mean assignment, truth]
  | any filters =>
      rw [toExpr, Result.bind_eq_ok] at ok
      obtain ⟨es, each, combined⟩ := ok
      obtain ⟨are, mean⟩ := toExprs_mean each
      obtain ⟨isCondition, means⟩ := combine_means (.inr rfl) combined are
      refine ⟨isCondition, fun assignment => ?_⟩
      rw [means assignment, mean assignment, truth]
  | not inner =>
      simp only [toExpr, Result.bind_eq_ok, Result.pure_eq_ok] at ok
      obtain ⟨operand, written, rfl⟩ := ok
      obtain ⟨isCondition, means⟩ := toExpr_means written
      refine ⟨.not isCondition, fun assignment => ?_⟩
      rw [truth, ← means assignment]
      rfl
  | compare column comparison json =>
      simp only [toExpr, Result.bind_eq_ok, Result.pure_eq_ok] at ok
      obtain ⟨found, present, rfl⟩ := ok
      rw [member_of_column present]
      exact compareExpr_means column comparison json

/-- So are the expressions of a list of filters. -/
theorem toExprs_mean {filters : List Filter} {es : List Expr}
    (ok : toExprs table filters = .ok es) :
    (∀ e ∈ es, e.IsCondition table.name) ∧
      ∀ assignment : Assignment, es.map (Expr.truth assignment) = truths assignment filters := by
  cases filters with
  | nil =>
      cases ok
      exact ⟨fun e mem => absurd mem List.not_mem_nil, fun _ => rfl⟩
  | cons filter rest =>
      simp only [toExprs, Result.bind_eq_ok, Result.pure_eq_ok] at ok
      obtain ⟨e, first, others, more, rfl⟩ := ok
      obtain ⟨isCondition, means⟩ := toExpr_means first
      obtain ⟨are, mean⟩ := toExprs_mean more
      constructor
      · intro other mem
        rcases List.mem_cons.mp mem with rfl | inRest
        · exact isCondition
        · exact are other inRest
      · intro assignment
        rw [List.map_cons, means assignment, mean assignment, truths]

end

end Filter

end Polyquery
