import Polyquery.Value
import Mathlib.Order.Compare

/-!
# The order of values

Comparing two values the other way round turns the order round.  For floating
point numbers only the direction that does not ask for laws of the hardware order
is stated: what is greater one way is less the other way.
-/

namespace Polyquery

namespace Timestamp

theorem order_go_swap (first second : List Int) :
    order.go second first = (order.go first second).swap := by
  induction first generalizing second with
  | nil => cases second <;> rfl
  | cons x xs ih =>
      cases second with
      | nil => rfl
      | cons y ys =>
          simp only [order.go]
          rw [ih, Ordering.swap_then, Std.OrientedOrd.eq_swap (a := y)]

theorem order_swap (a b : Timestamp) : b.order a = (a.order b).swap :=
  order_go_swap a.parts b.parts

end Timestamp

namespace Value

theorem compareBool_swap (a b : Bool) : compareBool b a = (compareBool a b).swap := by
  cases a <;> cases b <;> rfl

theorem compareText_eq_lt_of_gt {a b : String} (greater : compareText a b = .gt) :
    compareText b a = .lt := by
  simp only [compareText] at greater ⊢
  split at greater
  · contradiction
  · rename_i notLess
    split at greater
    · contradiction
    · rename_i different
      have below : b < a := Decidable.byContradiction fun notBelow =>
        different (String.le_antisymm (String.not_lt.1 notBelow) (String.not_lt.1 notLess))
      rw [if_pos below]

theorem compareFloat_eq_lt_of_gt {x y : Float} (greater : compareFloat x y = some .gt) :
    compareFloat y x = some .lt := by
  simp only [compareFloat] at greater ⊢
  split at greater
  · contradiction
  · split at greater
    · contradiction
    · split at greater
      · rename_i below
        rw [if_pos below]
      · contradiction

/-- A value is less than every value that is greater than it. -/
theorem compare_eq_lt_of_gt {v w : Value} (greater : v.compare w = some .gt) :
    w.compare v = some .lt := by
  cases v <;> cases w <;> simp only [compare, Option.some.injEq, reduceCtorEq] at greater ⊢
  case bool.bool a b => rw [compareBool_swap, greater]; rfl
  case int.int a b => rw [Std.OrientedOrd.eq_swap, greater]; rfl
  case int.float => exact compareFloat_eq_lt_of_gt greater
  case float.int => exact compareFloat_eq_lt_of_gt greater
  case float.float => exact compareFloat_eq_lt_of_gt greater
  case str.str => exact compareText_eq_lt_of_gt greater
  case date.date a b => rw [Timestamp.order_swap, greater]; rfl

end Value

end Polyquery
