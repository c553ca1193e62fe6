import Polyquery.Proofs.Result
import Polyquery.Proofs.Search.Reading
import Polyquery.Proofs.Value.Order

/-!
# Folding keeps the meaning of conditions

The conditions of a query are folded one by one into a clause.  Every step keeps
the invariant that the clause holds exactly when all conditions folded so far
hold: ranges stay the conjunction of the bounds given for their column, and the
branches of nested disjunctions stay the disjunction.  No range ever holds a bound
that the query does not give, so that it is enough if the given bounds follow the
order of values.  The JSON object of a clause means the same as the clause.
-/

namespace Polyquery.Search

variable {reading : Reading} {given : List Bound} {column table : String} {o : Operator}
  {value current : Value}

/-! ## Bounds -/

namespace Bounds

variable {bounds : Bounds}

theorem mem_operators : o ∈ operators ↔ o = .gt ∨ o = .ge ∨ o = .lt ∨ o = .le := by
  simp [operators]

theorem hold_iff :
    bounds.hold reading column ↔
      ∀ o ∈ operators, ∀ value, bounds.get o = some value →
        reading.bounded column o value.toJson := by
  simp only [hold, List.all_eq_true, Option.all_eq_true]

theorem get_put_self (range : o ∈ operators) : (bounds.put o value).get o = some value := by
  rcases mem_operators.1 range with rfl | rfl | rfl | rfl <;> rfl

theorem get_put_of_ne {other : Operator} (different : other ≠ o) :
    (bounds.put o value).get other = bounds.get other := by
  cases o <;> cases other <;> first | rfl | contradiction

/-- A bound that implies the one it replaces adds its own comparison. -/
theorem hold_put (range : o ∈ operators)
    (implies : ∀ current, bounds.get o = some current →
      reading.bounded column o value.toJson → reading.bounded column o current.toJson) :
    (bounds.put o value).hold reading column =
      (bounds.hold reading column && reading.bounded column o value.toJson) := by
  rw [Bool.eq_iff_iff, Bool.and_eq_true, hold_iff, hold_iff]
  constructor
  · intro every
    have new := every o range value (get_put_self range)
    refine ⟨fun other otherRange held present => ?_, new⟩
    by_cases same : other = o
    · subst same
      exact implies held present new
    · exact every other otherRange held (by rw [get_put_of_ne same, present])
  · rintro ⟨every, new⟩ other otherRange held present
    by_cases same : other = o
    · subst same
      rw [get_put_self range, Option.some.injEq] at present
      rwa [← present]
    · rw [get_put_of_ne same] at present
      exact every other otherRange held present

theorem hold_none : Bounds.none.hold reading column = true :=
  hold_iff.2 fun o _ _ present => by cases o <;> simp [none, get] at present

end Bounds

/-- A comparison that bounds a range gives its bound. -/
theorem Reading.mem_boundsOf {left right : Expr} (range : o ∈ Bounds.operators)
    (literal : right.literal? = some value) :
    ⟨columnOf left, o, value⟩ ∈ boundsOf (.node (.op o) [left, right]) := by
  rcases Bounds.mem_operators.1 range with rfl | rfl | rfl | rfl <;>
    simp [boundsOf, literal, Bounds.operators]

namespace Reading.Monotone

/-- A tighter bound implies the looser one. -/
theorem bounded_of_tighter (monotone : reading.Monotone given) (range : o ∈ Bounds.operators)
    (mem : ⟨column, o, value⟩ ∈ given) (mem' : ⟨column, o, current⟩ ∈ given)
    (order : value.compare current = some (Bounds.tighter o))
    (holds : reading.bounded column o value.toJson) :
    reading.bounded column o current.toJson := by
  rcases Bounds.mem_operators.1 range with rfl | rfl | rfl | rfl
  · exact monotone.above (.inl rfl) mem' mem (Value.compare_eq_lt_of_gt order) holds
  · exact monotone.above (.inr rfl) mem' mem (Value.compare_eq_lt_of_gt order) holds
  · exact monotone.below (.inl rfl) mem mem' order holds
  · exact monotone.below (.inr rfl) mem mem' order holds

/-- A bound that is not tighter is implied by the present one. -/
theorem bounded_of_not_tighter (monotone : reading.Monotone given) (range : o ∈ Bounds.operators)
    (mem : ⟨column, o, value⟩ ∈ given) (mem' : ⟨column, o, current⟩ ∈ given)
    {order : Ordering} (compared : value.compare current = some order)
    (notTighter : order ≠ Bounds.tighter o)
    (holds : reading.bounded column o current.toJson) :
    reading.bounded column o value.toJson := by
  cases order with
  | eq => rwa [monotone.same range mem mem' compared]
  | lt =>
      rcases Bounds.mem_operators.1 range with rfl | rfl | rfl | rfl
      · exact monotone.above (.inl rfl) mem mem' compared holds
      · exact monotone.above (.inr rfl) mem mem' compared holds
      · exact absurd rfl notTighter
      · exact absurd rfl notTighter
  | gt =>
      have swapped := Value.compare_eq_lt_of_gt compared
      rcases Bounds.mem_operators.1 range with rfl | rfl | rfl | rfl
      · exact absurd rfl notTighter
      · exact absurd rfl notTighter
      · exact monotone.below (.inl rfl) mem' mem swapped holds
      · exact monotone.below (.inr rfl) mem' mem swapped holds

end Reading.Monotone

namespace Bounds

/-- The bounds of a range are among the given ones. -/
def Within (given : List Bound) (column : String) (bounds : Bounds) : Prop :=
  ∀ o value, bounds.get o = some value → ⟨column, o, value⟩ ∈ given

variable {bounds tightened : Bounds}

theorem within_none : Within given column none := by
  intro o value present
  cases o <;> simp [none, get] at present

theorem Within.put (within : bounds.Within given column) (range : o ∈ operators)
    (mem : ⟨column, o, value⟩ ∈ given) : (bounds.put o value).Within given column := by
  intro other held present
  by_cases same : other = o
  · subst same
    rw [get_put_self range, Option.some.injEq] at present
    rwa [← present]
  · rw [get_put_of_ne same] at present
    exact within other held present

/-- A bound is put in place of the present one, or the present one stays. -/
theorem tighten?_cases (merged : bounds.tighten? o value = some tightened) :
    tightened = bounds.put o value ∨ tightened = bounds := by
  simp only [tighten?] at merged
  split at merged
  · exact .inl (Option.some.inj merged).symm
  · split at merged
    · cases merged
    · split at merged
      · exact .inl (Option.some.inj merged).symm
      · exact .inr (Option.some.inj merged).symm

theorem Within.tighten? (within : bounds.Within given column) (range : o ∈ operators)
    (mem : ⟨column, o, value⟩ ∈ given) (merged : bounds.tighten? o value = some tightened) :
    tightened.Within given column := by
  rcases tighten?_cases merged with rfl | rfl
  · exact within.put range mem
  · exact within

/-- Keeping the tighter of two bounds is the conjunction of both. -/
theorem hold_tighten? (monotone : reading.Monotone given) (range : o ∈ operators)
    (within : bounds.Within given column) (mem : ⟨column, o, value⟩ ∈ given)
    (merged : bounds.tighten? o value = some tightened) :
    tightened.hold reading column =
      (bounds.hold reading column && reading.bounded column o value.toJson) := by
  simp only [Bounds.tighten?] at merged
  cases present : bounds.get o with
  | none =>
      rw [present] at merged
      cases merged
      exact hold_put range fun current held => by rw [present] at held; contradiction
  | some current =>
      have mem' := within o current present
      cases compared : value.compare current with
      | none => simp [present, compared] at merged
      | some order =>
          simp only [present, compared] at merged
          by_cases tighter : order = Bounds.tighter o
          · rw [if_pos tighter, Option.some.injEq] at merged
            subst merged tighter
            refine hold_put range fun held same => ?_
            rw [present, Option.some.injEq] at same
            subst same
            exact monotone.bounded_of_tighter range mem mem' compared
          · rw [if_neg tighter, Option.some.injEq] at merged
            subst merged
            have implied : bounds.hold reading column →
                reading.bounded column o value.toJson := fun holds =>
              monotone.bounded_of_not_tighter range mem mem' compared tighter
                (hold_iff.1 holds o range current present)
            cases holds : bounds.hold reading column with
            | false => rfl
            | true => rw [implied holds]; rfl

end Bounds

/-! ## Folding -/

namespace Fold

/-- Whether the clause under construction holds. -/
def holds (reading : Reading) (fold : Fold) : Bool :=
  fold.clause.holds reading

variable {clause : Fold} {condition : Clause}

theorem holds_empty : empty.holds reading = true := rfl

theorem holds_eq :
    clause.holds reading =
      (clause.filter.all (Clause.holds reading) &&
        clause.mustNot.all fun excluded => !excluded.holds reading) := by
  simp only [holds, Fold.clause, Clause.holds, Clause.truths_eq_map, List.all_map]
  rfl

theorem holds_require :
    (clause.require condition).holds reading =
      (clause.holds reading && condition.holds reading) := by
  simp only [holds_eq, require, List.all_append, List.all_cons, List.all_nil, Bool.and_true]
  rw [Bool.and_right_comm]

theorem holds_exclude :
    (clause.exclude condition).holds reading =
      (clause.holds reading && !condition.holds reading) := by
  simp only [holds_eq, exclude, List.all_append, List.all_cons, List.all_nil, Bool.and_true]
  rw [Bool.and_assoc]

/-- A range with a single bound is the comparison itself. -/
theorem holds_range_single (range : o ∈ Bounds.operators) :
    (Clause.range column (Bounds.none.put o value)).holds reading =
      reading.bounded column o value.toJson := by
  rw [Clause.holds, Bounds.hold_put range (by cases o <;> simp [Bounds.none, Bounds.get]),
    Bounds.hold_none, Bool.true_and]

/-- The ranges among some clauses have given bounds only.  Ranges further inside are
complete: nothing is merged into them. -/
def Within (given : List Bound) (filter : List Clause) : Prop :=
  ∀ column bounds, Clause.range column bounds ∈ filter → bounds.Within given column

section Within

variable {filter rest : List Clause}

theorem within_nil : Within given [] :=
  fun _ _ mem => absurd mem List.not_mem_nil

theorem within_cons :
    Within given (condition :: rest) ↔
      (∀ column bounds, condition = .range column bounds → bounds.Within given column) ∧
        Within given rest := by
  simp only [Within, List.mem_cons, or_imp, forall_and, eq_comm]

/-- What is no range has no bound. -/
theorem Within.concat (within : Within given filter)
    (notRange : ∀ column bounds, condition ≠ .range column bounds) :
    Within given (filter ++ [condition]) := by
  intro column bounds mem
  rcases List.mem_append.mp mem with old | new
  · exact within column bounds old
  · exact absurd (List.mem_singleton.mp new).symm (notRange column bounds)

/-- A range with a given bound. -/
theorem within_single (range : o ∈ Bounds.operators) (mem : ⟨column, o, value⟩ ∈ given) :
    Within given [.range column (Bounds.none.put o value)] := by
  intro other bounds inList
  cases List.mem_singleton.mp inList
  exact Bounds.within_none.put range mem

/-- A given bound is added to a range, or becomes a range of its own. -/
theorem within_bound (within : Within given filter) (range : o ∈ Bounds.operators)
    (mem : ⟨column, o, value⟩ ∈ given) : Within given (bound column o value filter) := by
  fun_induction bound column o value filter with
  | case1 => exact within_single range mem
  | case2 rest bounds tightened merged =>
      obtain ⟨first, others⟩ := within_cons.mp within
      refine within_cons.mpr ⟨?_, others⟩
      rintro _ _ ⟨⟩
      exact (first _ _ rfl).tighten? range mem merged
  | case3 rest bounds notMerged =>
      obtain ⟨first, others⟩ := within_cons.mp within
      refine within_cons.mpr ⟨first, fun other more inList => ?_⟩
      rcases List.mem_append.mp inList with old | new
      · exact others other more old
      · exact within_single range mem other more new
  | case4 other bounds rest different ih =>
      obtain ⟨first, others⟩ := within_cons.mp within
      exact within_cons.mpr ⟨first, ih others⟩
  | case5 condition rest notRange ih =>
      obtain ⟨first, others⟩ := within_cons.mp within
      exact within_cons.mpr ⟨first, ih others⟩

end Within

/-- Adding a bound adds its comparison, wherever the range of the column stands and
whether or not the bound can be compared with the present one. -/
theorem all_bound (monotone : reading.Monotone given) (range : o ∈ Bounds.operators)
    (mem : ⟨column, o, value⟩ ∈ given) {filter : List Clause} (within : Within given filter) :
    (bound column o value filter).all (Clause.holds reading) =
      (filter.all (Clause.holds reading) && reading.bounded column o value.toJson) := by
  fun_induction bound column o value filter with
  | case1 => simp only [List.all_cons, List.all_nil, holds_range_single range]; rw [Bool.and_comm]
  | case2 rest bounds tightened merged =>
      have inside := (within_cons.mp within).1 _ _ rfl
      simp only [List.all_cons, Clause.holds]
      rw [Bounds.hold_tighten? monotone range inside mem merged, Bool.and_right_comm]
  | case3 rest bounds notMerged =>
      simp only [List.all_cons, List.all_append, List.all_nil, Bool.and_true,
        holds_range_single range]
      rw [Bool.and_assoc]
  | case4 other bounds rest different ih =>
      simp only [List.all_cons, ih (within_cons.mp within).2, Bool.and_assoc]
  | case5 condition rest notRange ih =>
      simp only [List.all_cons, ih (within_cons.mp within).2, Bool.and_assoc]

/-- Adding a comparison of a column with a value adds what the comparison says, and no
bound but its own. -/
theorem holds_compare (monotone : reading.Monotone given) (comparison : o.isComparison)
    {left right : Expr} (named : Reading.columnOf left = column)
    (literal : right.literal? = some value)
    (inside : Reading.boundsOf (.node (.op o) [left, right]) ⊆ given) {clause : Fold}
    (within : Within given clause.filter) :
    Within given (clause.compare column o value).filter ∧
      (clause.compare column o value).holds reading =
        (clause.holds reading && reading.holds (.node (.op o) [left, right])) := by
  have valueEq : Reading.valueOf right = value.toJson := by rw [Reading.valueOf, literal]; rfl
  have ranged (range : o ∈ Bounds.operators) :
      Within given (bound column o value clause.filter) ∧
        ({ clause with filter := bound column o value clause.filter } : Fold).holds reading =
          (clause.holds reading && reading.bounded column o value.toJson) := by
    have mem : ⟨column, o, value⟩ ∈ given := named ▸ inside (Reading.mem_boundsOf range literal)
    refine ⟨within_bound within range mem, ?_⟩
    rw [holds_eq, holds_eq, all_bound monotone range mem within, Bool.and_right_comm]
  cases o <;> simp only [Operator.isComparison, Bool.false_eq_true] at comparison
  case eq =>
    refine ⟨within.concat (by simp), ?_⟩
    rw [compare, holds_require, Reading.holds, named, valueEq]
    rfl
  case ne =>
    refine ⟨within, ?_⟩
    rw [compare, holds_exclude, Reading.holds, named, valueEq]
    rfl
  all_goals
    simp only [compare, Reading.holds, Operator.isComparison, Bool.true_and, named, valueEq]
    exact ranged (by simp [Bounds.operators])

end Fold

theorem columnOf_of_columnName {e : Expr} (found : columnName table e = .ok column) :
    Reading.columnOf e = column := by
  unfold columnName at found
  split at found
  · rename_i owner inner
    split at found
    · contradiction
    · split at found
      · contradiction
      · cases named : inner.reference? with
        | none => simp [named] at found
        | some name =>
            simp only [named, Except.ok.injEq] at found
            rw [Reading.columnOf, named, Option.getD_some, found]
  · contradiction

/-- Folding a disjunction adds one disjunction. -/
theorem fold_eq_require_of_or {e : Expr} {clause result : Fold} (isOr : e.operator? = some .or)
    (folded : fold table e clause = .ok result) :
    ∃ should, result = clause.require (.any should) := by
  obtain ⟨symbol, operands⟩ := e
  simp only [Expr.operator?, Expr.symbol] at isOr
  obtain rfl : symbol = .op .or := by cases symbol <;> simp_all
  rcases operands with - | ⟨left, - | ⟨right, - | ⟨third, others⟩⟩⟩
  · contradiction
  · contradiction
  · simp only [fold, Result.bind_eq_ok, Result.pure_eq_ok] at folded
    obtain ⟨first, -, second, -, rfl⟩ := folded
    exact ⟨_, rfl⟩
  · simp only [fold, Result.bind_eq_ok] at folded
    obtain ⟨_, _, impossible⟩ := folded
    contradiction

/-- The branches that an operand adds to a disjunction hold, one of them at least,
exactly when the operand does. -/
theorem any_branches {operand : Expr} {folded : Fold}
    (ok : fold table operand .empty = .ok folded) :
    (folded.branches operand).any (Clause.holds reading) = folded.holds reading := by
  unfold Fold.branches
  split
  · rename_i should isOr filterEq
    obtain ⟨_, rfl⟩ := fold_eq_require_of_or isOr ok
    obtain rfl : _ = should := by simpa [Fold.require, Fold.empty] using filterEq
    rw [Fold.holds_require, Fold.holds_empty, Bool.true_and, Clause.holds, Clause.truths_eq_map,
      List.any_map]
    rfl
  · simp [Fold.holds]

/-- A folding step keeps the invariant: the clause that comes out holds exactly when
the clause that went in and the condition do, and its ranges have given bounds only. -/
theorem holds_fold (monotone : reading.Monotone given) {e : Expr}
    (inside : Reading.boundsOf e ⊆ given) {clause result : Fold}
    (within : Fold.Within given clause.filter) (folded : fold table e clause = .ok result) :
    Fold.Within given result.filter ∧
      result.holds reading = (clause.holds reading && reading.holds e) := by
  fun_induction fold table e clause generalizing result with
  | case1 left right clause ihLeft ihRight =>
    obtain ⟨insideLeft, insideRight⟩ := List.append_subset.mp inside
    obtain ⟨middle, leftOk, rightOk⟩ := Result.bind_eq_ok.1 folded
    obtain ⟨withinMiddle, leftEq⟩ := ihLeft insideLeft within leftOk
    obtain ⟨withinResult, rightEq⟩ := ihRight middle insideRight withinMiddle rightOk
    refine ⟨withinResult, ?_⟩
    rw [rightEq, leftEq, Reading.holds, Bool.and_assoc]
  | case2 left right clause ihLeft ihRight =>
    obtain ⟨insideLeft, insideRight⟩ := List.append_subset.mp inside
    simp only [Result.bind_eq_ok, Result.pure_eq_ok] at folded
    obtain ⟨first, leftOk, second, rightOk, rfl⟩ := folded
    have leftEq := (ihLeft insideLeft Fold.within_nil leftOk).2
    have rightEq := (ihRight insideRight Fold.within_nil rightOk).2
    refine ⟨within.concat (by simp), ?_⟩
    rw [Fold.holds_require, Clause.holds, Clause.truths_eq_map, List.any_map, Reading.holds]
    have branches : (first.branches left ++ second.branches right).any (Clause.holds reading) =
        (reading.holds left || reading.holds right) := by
      rw [List.any_append, any_branches leftOk, any_branches rightOk, leftEq, rightEq,
        Fold.holds_empty, Bool.true_and, Bool.true_and]
    rw [← branches]
    rfl
  | case3 operand clause ih =>
    simp only [Result.bind_eq_ok, Result.pure_eq_ok] at folded
    obtain ⟨negated, operandOk, rfl⟩ := folded
    have negatedEq := (ih inside Fold.within_nil operandOk).2
    rw [Fold.holds_empty, Bool.true_and] at negatedEq
    refine ⟨within, ?_⟩
    rw [Fold.holds_exclude, Reading.holds, ← negatedEq]
    rfl
  | case4 operand clause =>
    simp only [Result.bind_eq_ok, Result.pure_eq_ok] at folded
    obtain ⟨column, named, rfl⟩ := folded
    refine ⟨within, ?_⟩
    rw [Fold.holds_exclude, Reading.holds, columnOf_of_columnName named, Clause.holds]
  | case5 operand clause =>
    simp only [Result.bind_eq_ok, Result.pure_eq_ok] at folded
    obtain ⟨column, named, rfl⟩ := folded
    refine ⟨within.concat (by simp), ?_⟩
    rw [Fold.holds_require, Reading.holds, columnOf_of_columnName named, Clause.holds]
  | case6 o left right clause notAnd notOr comparison =>
    obtain ⟨column, named, rest⟩ := Result.bind_eq_ok.1 folded
    cases literal : right.literal? with
    | none => simp [literal] at rest
    | some value =>
        simp only [literal, Result.pure_eq_ok] at rest
        subst rest
        exact Fold.holds_compare monotone comparison (columnOf_of_columnName named) literal inside
          within
  | case7 o left right clause =>
    obtain ⟨_, _, impossible⟩ := Result.bind_eq_ok.1 folded
    contradiction
  | case8 o operands clause =>
    obtain ⟨_, _, impossible⟩ := Result.bind_eq_ok.1 folded
    contradiction
  | case9 symbol operands clause =>
    obtain ⟨_, _, impossible⟩ := Result.bind_eq_ok.1 folded
    contradiction

/-- Folding a list of conditions keeps the invariant. -/
theorem holds_foldlM (monotone : reading.Monotone given) {filters : List Expr}
    (inside : filters.flatMap Reading.boundsOf ⊆ given) {start result : Fold}
    (within : Fold.Within given start.filter)
    (folded : filters.foldlM (fun clause filter => fold table filter clause) start = .ok result) :
    result.holds reading = (start.holds reading && filters.all reading.holds) := by
  induction filters generalizing start with
  | nil =>
      rw [List.foldlM_nil, Result.pure_eq_ok] at folded
      rw [folded, List.all_nil, Bool.and_true]
  | cons filter rest ih =>
      rw [List.flatMap_cons] at inside
      obtain ⟨insideFirst, insideRest⟩ := List.append_subset.mp inside
      rw [List.foldlM_cons, Result.bind_eq_ok] at folded
      obtain ⟨middle, first, others⟩ := folded
      obtain ⟨withinMiddle, middleEq⟩ := holds_fold monotone insideFirst within first
      rw [ih insideRest withinMiddle others, middleEq, List.all_cons, Bool.and_assoc]

/-! ## Requests -/

namespace Request

variable {query : Query} {request : Request}

theorem condition_of_ofQuery (written : ofQuery query = .ok request) :
    condition query = .ok request.body.condition := by
  unfold ofQuery at written
  split at written
  · contradiction
  · simp only [Result.bind_eq_ok, Result.pure_eq_ok] at written
    obtain ⟨_, -, _, -, _, found, rfl⟩ := written
    exact found

theorem field?_query (body : Body) :
    body.toJson.field? "query" = body.condition.map Clause.toJson := by
  obtain ⟨source, sorts, condition⟩ := body
  cases source <;> cases sorts <;> cases condition <;>
    simp [Body.toJson, optionalField, Json.field?, Fields.find?]

/-- The condition of a request, read as it travels, is the conjunction of the
conditions of the query, for every reading that follows the order of values on the bounds
that the query gives. -/
theorem condition?_query_eq_all
    (monotone : reading.Monotone (query.filters.flatMap Reading.boundsOf))
    (written : ofQuery query = .ok request) (filtered : query.filters ≠ []) :
    ∃ condition, request.body.toJson.field? "query" = some condition ∧
      reading.condition? condition = some (query.filters.all reading.holds) := by
  have found := condition_of_ofQuery written
  rw [condition, if_neg (by simpa using filtered)] at found
  simp only [Result.bind_eq_ok, Result.pure_eq_ok] at found
  obtain ⟨folded, foldedOk, clauseEq⟩ := found
  refine ⟨folded.clause.toJson, by rw [field?_query, ← clauseEq]; rfl, ?_⟩
  rw [Clause.condition?_toJson]
  have invariant := holds_foldlM monotone (List.Subset.refl _) Fold.within_nil foldedOk
  rw [Fold.holds_empty, Bool.true_and] at invariant
  exact congrArg some invariant

/-- A document whose columns all hold one whole number. -/
def wholeDocument (n : Int) : Reading where
  equal _ value :=
    match value with
    | .num (.int m) => n = m
    | _ => false
  present _ := true
  bounded _ operator value :=
    match value, operator with
    | .num (.int m), .gt => m < n
    | .num (.int m), .ge => m ≤ n
    | .num (.int m), .lt => n < m
    | .num (.int m), .le => n ≤ m
    | _, _ => false

/-- A whole number lies among bounds that are whole numbers or texts as it should: no text
bounds it. -/
theorem wholeDocument_monotone (n : Int)
    (plain : ∀ bound ∈ given, (∃ m, bound.value = .int m) ∨ ∃ text, bound.value = .str text) :
    (wholeDocument n).Monotone given where
  below {column v w o} range mem mem' less below := by
    rcases plain _ mem with ⟨x, rfl⟩ | ⟨text, rfl⟩
    · rcases plain _ mem' with ⟨y, rfl⟩ | ⟨text, rfl⟩
      · have less : x < y := Std.compare_eq_lt.mp (Option.some.inj less)
        rcases range with rfl | rfl <;>
          simp [wholeDocument, Value.toJson, Json.int] at below ⊢ <;> omega
      · contradiction
    · cases o <;> contradiction
  above {column v w o} range mem mem' less above := by
    rcases plain _ mem' with ⟨y, rfl⟩ | ⟨text, rfl⟩
    · rcases plain _ mem with ⟨x, rfl⟩ | ⟨text, rfl⟩
      · have less : x < y := Std.compare_eq_lt.mp (Option.some.inj less)
        rcases range with rfl | rfl <;>
          simp [wholeDocument, Value.toJson, Json.int] at above ⊢ <;> omega
      · contradiction
    · cases o <;> contradiction
  same {column v w o} range mem mem' equal := by
    rcases plain _ mem with ⟨x, rfl⟩ | ⟨text, rfl⟩ <;>
      rcases plain _ mem' with ⟨y, rfl⟩ | ⟨text', rfl⟩
    · obtain rfl : x = y := by simpa [Value.compare] using equal
      rfl
    · contradiction
    · contradiction
    · rfl

/-- Bounds of one column, some of which a later one tightens, and a choice whose bounds are
ranges of their own. -/
def ratedQuery : Query :=
  let rating := Expr.member "data" "rating"
  let bound (o : Operator) (value : Value) := Expr.binary o rating (.literal value)
  { Query.ofTable (Table.ofColumns "data" [] ["rating"]) with
    filters := [.binary .and (bound .lt (.int 100)) (bound .gt (.int 5)), bound .lt (.int 50),
      bound .gt (.int 1), bound .ge (.int 10),
      .binary .or (bound .lt (.str "5")) (.unary .not (bound .le (.int 12)))] }

theorem condition?_query_ratedQuery :
    ∃ request, ofQuery ratedQuery = .ok request ∧ ratedQuery.filters ≠ [] ∧
      request.body.condition = some (.all
        [.range "rating" ⟨some (.int 5), some (.int 10), some (.int 50), none⟩,
          .any [.all [.range "rating" ⟨none, none, some (.str "5"), none⟩] [],
            .all [] [.all [.range "rating" ⟨none, none, none, some (.int 12)⟩] []]]] []) ∧
      ∀ n ∈ [7, 20, 60],
        (wholeDocument n).Monotone (ratedQuery.filters.flatMap Reading.boundsOf) ∧
        ∃ condition, request.body.toJson.field? "query" = some condition ∧
          (wholeDocument n).condition? condition = some (decide (n = 20)) := by
  obtain ⟨request, written⟩ : ∃ request, ofQuery ratedQuery = .ok request := ⟨_, rfl⟩
  refine ⟨request, written, by decide, ?_, ?_⟩
  · cases written
    rfl
  have bounds : ratedQuery.filters.flatMap Reading.boundsOf =
      [⟨"rating", .lt, .int 100⟩, ⟨"rating", .gt, .int 5⟩, ⟨"rating", .lt, .int 50⟩,
        ⟨"rating", .gt, .int 1⟩, ⟨"rating", .ge, .int 10⟩, ⟨"rating", .lt, .str "5"⟩,
        ⟨"rating", .le, .int 12⟩] := rfl
  have monotone (n : Int) :
      (wholeDocument n).Monotone (ratedQuery.filters.flatMap Reading.boundsOf) :=
    wholeDocument_monotone n (by rw [bounds]; simp)
  intro n among
  refine ⟨monotone n, ?_⟩
  obtain ⟨condition, found, means⟩ := condition?_query_eq_all (monotone n) written (by decide)
  refine ⟨condition, found, ?_⟩
  rw [means]
  simp only [List.mem_cons, List.not_mem_nil, or_false] at among
  rcases among with rfl | rfl | rfl <;> rfl

end Request

end Polyquery.Search
