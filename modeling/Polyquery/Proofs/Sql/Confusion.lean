import Mathlib
import Polyquery.Proofs.Sql.Regrouping

/-!
# Confused operators

Parentheses are written around operators between two operands that stand under an operator
with one, and around conjunctions and disjunctions that stand under any other operator.  So
none are written around a comparison under a comparison, and none around an operator on one
side of its operand under one on the other side.  In both places the operators can change
places without a change of the text, and whatever stands above them, the expressions are no
regroupings of each other.
-/

namespace Polyquery

/-! ## Where parentheses are written -/

namespace Operator

variable {o p parent : Operator} {e operand left right : Expr}

theorem encloses_of_isConnective (connective : o.isConnective) (root : e.operator? = some o)
    (different : o ≠ parent) : parent.encloses e := by
  have between := between_of_isConnective connective
  have either : o = .and ∨ o = .or := by cases o <;> simp_all [isConnective]
  rw [encloses, root]
  simp only [between, decide_true, Bool.true_and]
  split
  · rfl
  · rfl
  · simp [either, different]

theorem encloses_of_isComparison (comparison : o.isComparison) :
    o.encloses e = e.operator?.any isConnective := by
  rw [encloses]
  cases e.operator? with
  | none => rfl
  | some child => cases o <;> cases comparison <;> cases child <;> rfl

theorem encloses_of_isUnary (alone : o.isUnary) :
    o.encloses e = e.operator?.any fun child => child.placement = .between := by
  rw [encloses]
  cases e.operator? with
  | none => rfl
  | some child => rcases placement_of_isUnary alone with placed | placed <;> simp [placed]

theorem encloses_of_between (alone : parent.isUnary) (root : e.operator? = some o)
    (between : o.placement = .between) : parent.encloses e := by
  rw [encloses_of_isUnary alone, root]
  exact decide_eq_true between

theorem encloses_self : o.encloses (.binary o left right) = false := by
  cases o <;> rfl

theorem encloses_unary (alone : o.isUnary) : parent.encloses (.unary o operand) = false := by
  have notBetween := not_between_of_isUnary alone
  rw [encloses]
  change (decide (o.placement = .between) && _) = false
  rw [decide_eq_false notBetween, Bool.false_and]

theorem encloses_comparison (comparison : o.isComparison) :
    parent.encloses (.binary o left right) = decide (parent.placement.arity = 1) := by
  cases o <;> cases comparison <;> cases parent <;> rfl

/-- Whether an operator and an operand that it stands above can change places without a
change of the text: both are comparisons, or they stand on different sides of one
operand. -/
def confuses (parent : Operator) (operand : Expr) : Bool :=
  match operand.operator? with
  | none => false
  | some child =>
    parent.isComparison && child.isComparison ||
      parent.isUnary && child.isUnary && parent.placement ≠ child.placement

theorem confuses_iff : o.confuses e ↔ ∃ p, e.operator? = some p ∧
    (o.isComparison ∧ p.isComparison ∨ o.isUnary ∧ p.isUnary ∧ o.placement ≠ p.placement) := by
  rw [confuses]
  cases e.operator? with
  | none => simp
  | some p => simp [and_assoc]

end Operator

namespace Expr

/-- Whether some operator stands directly under one that it is confused with. -/
def mixes : Expr → Bool
  | .node (.op o) [operand] => o.confuses operand || operand.mixes
  | .node (.op o) [left, right] =>
    o.confuses left || o.confuses right || left.mixes || right.mixes
  | _ => false

variable {o p : Operator} {e left right a b : Expr} {d : Dialect} {n : Nat}

theorem mixes_unary : (unary o e).mixes = (o.confuses e || e.mixes) := by
  rw [unary, mixes]

theorem mixes_binary : (binary o left right).mixes =
    (o.confuses left || o.confuses right || left.mixes || right.mixes) := by
  rw [binary, mixes]

/-! ## Forms of formulas -/

namespace IsFormula

theorem of_between (formula : e.IsFormula) (root : e.operator? = some o)
    (between : o.placement = .between) :
    ∃ left right : Expr, e = .binary o left right ∧ left.IsFormula ∧ right.IsFormula := by
  cases formula with
  | member table column =>
      cases root
      cases between
  | literal value => cases root
  | unary alone inner =>
      cases root
      exact absurd between (Operator.not_between_of_isUnary alone)
  | @binary _ left right _ first second =>
      cases root
      exact ⟨left, right, rfl, first, second⟩

theorem of_isUnary (formula : e.IsFormula) (root : e.operator? = some o) (alone : o.isUnary) :
    ∃ operand : Expr, e = .unary o operand ∧ operand.IsFormula := by
  cases formula with
  | member table column =>
      cases root
      cases alone
  | literal value => cases root
  | @unary _ operand _ inner =>
      cases root
      exact ⟨operand, rfl, inner⟩
  | binary between first second =>
      cases root
      exact absurd between (Operator.not_between_of_isUnary alone)

end IsFormula

/-! ## Pieces -/

theorem pieces_before (before : o.placement = .before) :
    (unary o e).pieces d n = .text (o.sql ++ " ") :: e.operandPieces d o n := by
  simp [unary, pieces, before, operandPieces]

theorem pieces_after (after : o.placement = .after) :
    (unary o e).pieces d n = e.operandPieces d o n ++ [.text (" " ++ o.sql)] := by
  simp [unary, pieces, after, operandPieces]

theorem pieces_between (between : o.placement = .between) :
    (binary o left right).pieces d n = left.operandPieces d o n ++
      [.text (" " ++ o.sql ++ " ")] ++ right.operandPieces d o (n + left.literals.length) := by
  simp [binary, pieces, between, operandPieces]

theorem literals_unary : (unary o e).literals = e.literals := by
  rw [unary, literals]

theorem literals_binary : (binary o left right).literals = left.literals ++ right.literals := by
  rw [binary, literals]

theorem operandPieces_of_bare {parent : Operator} (bare : parent.encloses e = false) :
    e.operandPieces d parent n = e.pieces d n := by
  rw [operandPieces, bare]
  rfl

/-! ## Twins -/

/-- Two formulas with one text that are not regroupings of each other, whatever they stand
under. -/
structure Twins (a b : Expr) : Prop where
  first : a.IsFormula
  second : b.IsFormula
  pieces : ∀ (d : Dialect) (n : Nat), a.pieces d n = b.pieces d n
  literals : a.literals = b.literals
  encloses : ∀ parent : Operator, parent.encloses a = parent.encloses b
  connects : ∀ o : Operator, o.isConnective → (a.operator? = some o ↔ b.operator? = some o)
  different : a.flattened ≠ b.flattened

namespace Twins

theorem symm (twins : Twins a b) : Twins b a where
  first := twins.second
  second := twins.first
  pieces d n := (twins.pieces d n).symm
  literals := twins.literals.symm
  encloses parent := (twins.encloses parent).symm
  connects o connective := (twins.connects o connective).symm
  different := twins.different.symm

/-- A comparison that is compared, on the left or on the right. -/
theorem comparisons {x y z : Expr} (first : o.isComparison) (second : p.isComparison)
    (xFormula : x.IsFormula) (yFormula : y.IsFormula) (zFormula : z.IsFormula) :
    Twins (.binary p (.binary o x y) z) (.binary o x (.binary p y z)) := by
  have oBetween : o.placement = .between := Operator.between_iff.mpr (.inl first)
  have pBetween : p.placement = .between := Operator.between_iff.mpr (.inl second)
  have alike (e : Expr) : p.encloses e = o.encloses e := by
    rw [Operator.encloses_of_isComparison first, Operator.encloses_of_isComparison second]
  have bare {q r : Operator} (outer : q.isComparison) (inner : r.isComparison) (left right : Expr) :
      q.encloses (.binary r left right) = false := by
    rw [Operator.encloses_of_isComparison outer]
    exact Operator.isConnective_of_isComparison inner
  constructor
  case first => exact .binary pBetween (.binary oBetween xFormula yFormula) zFormula
  case second => exact .binary oBetween xFormula (.binary pBetween yFormula zFormula)
  case pieces =>
    intro d n
    rw [pieces_between pBetween, pieces_between oBetween,
      operandPieces_of_bare (bare second first x y), operandPieces_of_bare (bare first second y z),
      pieces_between oBetween, pieces_between pBetween, literals_binary, List.length_append]
    simp only [operandPieces, alike, List.append_assoc, Nat.add_assoc]
  case literals => simp only [literals_binary, List.append_assoc]
  case encloses =>
    intro parent
    rw [Operator.encloses_comparison first, Operator.encloses_comparison second]
  case connects =>
    intro q connective
    refine iff_of_false ?_ ?_
    · rintro ⟨⟩
      rw [Operator.isConnective_of_isComparison second] at connective
      cases connective
    · rintro ⟨⟩
      rw [Operator.isConnective_of_isComparison first] at connective
      cases connective
  case different =>
    rw [flattened_comparison second, flattened_comparison first, flattened_comparison first,
      flattened_comparison second]
    intro same
    -- the first operands of both would be equal, and one contains the other
    have shorter : binary o x.flattened y.flattened = x.flattened :=
      (List.cons.inj (Expr.node.inj same).2).1
    have sizes := congrArg sizeOf shorter
    simp only [binary, node.sizeOf_spec, List.cons.sizeOf_spec] at sizes
    omega

/-- An operator in front of an operand and one behind it, in either order. -/
theorem sides {x : Expr} (before : o.placement = .before) (after : p.placement = .after)
    (oAlone : o.isUnary) (pAlone : p.isUnary) (formula : x.IsFormula) :
    Twins (.unary o (.unary p x)) (.unary p (.unary o x)) := by
  constructor
  case first => exact .unary oAlone (.unary pAlone formula)
  case second => exact .unary pAlone (.unary oAlone formula)
  case pieces =>
    intro d n
    have alike : o.encloses x = p.encloses x := by
      rw [Operator.encloses_of_isUnary oAlone, Operator.encloses_of_isUnary pAlone]
    rw [pieces_before before, pieces_after after,
      operandPieces_of_bare (Operator.encloses_unary pAlone),
      operandPieces_of_bare (Operator.encloses_unary oAlone), pieces_after after,
      pieces_before before, operandPieces, operandPieces, alike, List.cons_append]
  case literals => simp only [literals_unary]
  case encloses =>
    intro parent
    rw [Operator.encloses_unary oAlone, Operator.encloses_unary pAlone]
  case connects =>
    intro q connective
    have between := Operator.between_of_isConnective connective
    refine iff_of_false ?_ ?_
    · rintro ⟨⟩
      exact Operator.not_between_of_isUnary oAlone between
    · rintro ⟨⟩
      exact Operator.not_between_of_isUnary pAlone between
  case different =>
    simp only [flattened_unary]
    rintro ⟨⟩
    rw [before] at after
    cases after

theorem operandPieces (twins : Twins a b) (parent : Operator) (d : Dialect) (n : Nat) :
    a.operandPieces d parent n = b.operandPieces d parent n := by
  rw [Expr.operandPieces, Expr.operandPieces, twins.encloses, twins.pieces]

theorem merged (twins : Twins a b) (o : Operator) :
    a.flattened.merged o ≠ b.flattened.merged o := by
  have whole {e : Expr} (root : e.operator? = some o) : e = .node (.op o) e.operands := by
    obtain ⟨symbol, operands⟩ := e
    cases symbol <;> cases root
    rfl
  intro same
  simp only [Expr.merged, operator?_flattened] at same
  -- only an expression of the connective itself gives up its operator
  by_cases root : o.isConnective ∧ a.operator? = some o
  · obtain ⟨connective, aRoot⟩ := root
    have bRoot := (twins.connects o connective).mp aRoot
    rw [if_pos ⟨connective, aRoot⟩, if_pos ⟨connective, bRoot⟩] at same
    refine twins.different ?_
    rw [whole ((operator?_flattened a).trans aRoot), same,
      ← whole ((operator?_flattened b).trans bRoot)]
  · have bRoot : ¬(o.isConnective ∧ b.operator? = some o) := fun both =>
      root ⟨both.1, (twins.connects o both.1).mpr both.2⟩
    rw [if_neg root, if_neg bRoot] at same
    exact twins.different (List.cons.inj same).1

theorem unary (twins : Twins a b) (alone : o.isUnary) : Twins (.unary o a) (.unary o b) where
  first := .unary alone twins.first
  second := .unary alone twins.second
  pieces d n := by
    rcases Operator.placement_of_isUnary alone with before | after
    · rw [pieces_before before, pieces_before before, twins.operandPieces]
    · rw [pieces_after after, pieces_after after, twins.operandPieces]
  literals := by rw [literals_unary, literals_unary, twins.literals]
  encloses _ := rfl
  connects _ _ := Iff.rfl
  different same := by
    rw [flattened_unary, flattened_unary] at same
    cases Expr.node.inj same with
    | intro _ sameOperands => exact twins.different (List.cons.inj sameOperands).1

theorem onLeft {right : Expr} (twins : Twins a b) (between : o.placement = .between)
    (formula : right.IsFormula) : Twins (.binary o a right) (.binary o b right) where
  first := .binary between twins.first formula
  second := .binary between twins.second formula
  pieces d n := by
    rw [pieces_between between, pieces_between between, twins.operandPieces, twins.literals]
  literals := by rw [literals_binary, literals_binary, twins.literals]
  encloses _ := rfl
  connects _ _ := Iff.rfl
  different same := by
    rw [flattened_binary, flattened_binary] at same
    exact twins.merged o (List.append_cancel_right (Expr.node.inj same).2)

theorem onRight {left : Expr} (twins : Twins a b) (between : o.placement = .between)
    (formula : left.IsFormula) : Twins (.binary o left a) (.binary o left b) where
  first := .binary between formula twins.first
  second := .binary between formula twins.second
  pieces d n := by
    rw [pieces_between between, pieces_between between, twins.operandPieces]
  literals := by rw [literals_binary, literals_binary, twins.literals]
  encloses _ := rfl
  connects _ _ := Iff.rfl
  different same := by
    rw [flattened_binary, flattened_binary] at same
    exact twins.merged o (List.append_cancel_left (Expr.node.inj same).2)

end Twins

namespace IsFormula

/-- An operator above one on the other side of the operand has a twin. -/
theorem exists_twins_unary (formula : e.IsFormula) (alone : o.isUnary) (confused : o.confuses e) :
    ∃ b, Twins (.unary o e) b := by
  obtain ⟨p, root, ⟨comparison, -⟩ | ⟨-, otherAlone, otherSide⟩⟩ :=
    Operator.confuses_iff.mp confused
  · exact absurd (Operator.between_iff.mpr (.inl comparison))
      (Operator.not_between_of_isUnary alone)
  · obtain ⟨operand, rfl, inner⟩ := formula.of_isUnary root otherAlone
    refine ⟨.unary p (.unary o operand), ?_⟩
    rcases Operator.placement_of_isUnary alone with before | after
    · have after := (Operator.placement_of_isUnary otherAlone).resolve_left fun same =>
        otherSide (before.trans same.symm)
      exact Twins.sides before after alone otherAlone inner
    · have before := (Operator.placement_of_isUnary otherAlone).resolve_right fun same =>
        otherSide (after.trans same.symm)
      exact (Twins.sides before after otherAlone alone inner).symm

/-- What an operator between two operands is confused with is a comparison. -/
theorem of_confuses_between (formula : e.IsFormula) (between : o.placement = .between)
    (confused : o.confuses e) : o.isComparison ∧ ∃ (p : Operator) (left right : Expr),
      p.isComparison ∧ e = .binary p left right ∧ left.IsFormula ∧ right.IsFormula := by
  obtain ⟨p, root, ⟨comparison, other⟩ | ⟨alone, -⟩⟩ :=
    Operator.confuses_iff.mp confused
  · obtain ⟨left, right, same, first, second⟩ :=
      formula.of_between root (Operator.between_iff.mpr (.inl other))
    exact ⟨comparison, p, left, right, other, same, first, second⟩
  · exact absurd between (Operator.not_between_of_isUnary alone)

/-- A formula in which operators are confused has a twin. -/
theorem exists_twins (formula : a.IsFormula) (mixed : a.mixes) : ∃ b, Twins a b := by
  induction formula with
  | member table column => cases mixed
  | literal value => cases mixed
  | @unary o operand alone inner ih =>
      rw [mixes_unary, Bool.or_eq_true] at mixed
      rcases mixed with confused | below
      · exact inner.exists_twins_unary alone confused
      · obtain ⟨b, twins⟩ := ih below
        exact ⟨.unary o b, twins.unary alone⟩
  | @binary o left right between first second ihFirst ihSecond =>
      simp only [mixes_binary, Bool.or_eq_true, or_assoc] at mixed
      rcases mixed with confused | confused | below | below
      · obtain ⟨comparison, p, x, y, other, rfl, xFormula, yFormula⟩ :=
          first.of_confuses_between between confused
        exact ⟨_, Twins.comparisons other comparison xFormula yFormula second⟩
      · obtain ⟨comparison, p, y, z, other, rfl, yFormula, zFormula⟩ :=
          second.of_confuses_between between confused
        exact ⟨_, (Twins.comparisons comparison other first yFormula zFormula).symm⟩
      · obtain ⟨b, twins⟩ := ihFirst below
        exact ⟨.binary o b right, twins.onLeft between second⟩
      · obtain ⟨b, twins⟩ := ihSecond below
        exact ⟨.binary o left b, twins.onRight between first⟩

end IsFormula

end Expr

end Polyquery
