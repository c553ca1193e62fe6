import Polyquery.Search.Request

/-!
# What conditions mean

A reading of a document says which elementary conditions hold of it.  It extends
to the conditions of a query, which are boolean, and to the conditions of a search
request as they travel: JSON objects whose `bool` clauses hold under the rules for
`filter`, `must_not`, `should` and `minimum_should_match`.
-/

namespace Polyquery.Search

/-- Which elementary conditions hold of a document.  Values and bounds are known
only by their JSON values. -/
structure Reading where
  /-- A column matches a value. -/
  equal : String → Json → Bool
  /-- A column has a value. -/
  present : String → Bool
  /-- A column lies on the right side of a bound. -/
  bounded : String → Operator → Json → Bool

/-- The truth values of the clauses of a `bool` condition. -/
structure Occurrences where
  filter : List Bool := []
  mustNot : List Bool := []
  should : List Bool := []
  /-- How many of the optional clauses have to hold, if it is said. -/
  minimum : Option Int := none

namespace Occurrences

/-- How many of the optional clauses have to hold.  Unless it is said, one of them
has to hold if there is nothing else. -/
def least (occurrences : Occurrences) : Int :=
  occurrences.minimum.getD
    (if occurrences.filter.isEmpty && !occurrences.should.isEmpty then 1 else 0)

def hold (occurrences : Occurrences) : Bool :=
  occurrences.filter.all id && occurrences.mustNot.all (!·) &&
    occurrences.least ≤ occurrences.should.count true

/-- At least one of the optional clauses has to hold. -/
theorem hold_of_one (should : List Bool) :
    hold ⟨[], [], should, some 1⟩ = should.any id := by
  rw [Bool.eq_iff_iff]
  simp only [hold, List.all_nil, Bool.true_and, decide_eq_true_eq, List.any_eq_true, id_eq,
    exists_eq_right]
  rw [← List.one_le_count_iff, least, Option.getD_some]
  omega

end Occurrences

namespace Reading

variable (reading : Reading)

/-! ## Conditions of a query -/

/-- The column that an operand names. -/
def columnOf : Expr → String
  | .node (.op .member) [_, column] => column.reference?.getD ""
  | _ => ""

/-- The value of an operand as it travels. -/
def valueOf (e : Expr) : Json :=
  (e.literal?.getD .null).toJson

/-- Whether a condition of a query holds. -/
def holds : Expr → Bool
  | .node (.op .and) [left, right] => holds left && holds right
  | .node (.op .or) [left, right] => holds left || holds right
  | .node (.op .not) [operand] => !holds operand
  | .node (.op .isNull) [operand] => !reading.present (columnOf operand)
  | .node (.op .isNotNull) [operand] => reading.present (columnOf operand)
  | .node (.op .eq) [left, right] => reading.equal (columnOf left) (valueOf right)
  | .node (.op .ne) [left, right] => !reading.equal (columnOf left) (valueOf right)
  | .node (.op o) [left, right] =>
    o.isComparison && reading.bounded (columnOf left) o (valueOf right)
  | _ => false

/-! ## Conditions as they travel -/

/-- The comparison with a name in a range. -/
def boundNamed? : String → Option Operator
  | "gt" => some .gt
  | "gte" => some .ge
  | "lt" => some .lt
  | "lte" => some .le
  | _ => none

/-- Whether a column lies within every bound of a range. -/
def bounds? (column : String) : List (String × Json) → Option Bool
  | [] => some true
  | (name, value) :: rest => do
    let operator ← boundNamed? name
    return reading.bounded column operator value && (← bounds? column rest)

mutual

/-- Whether a condition holds; none for JSON that is no condition. -/
def condition? : Json → Option Bool
  | .obj [("match", .obj [(column, value)])] => some (reading.equal column value)
  | .obj [("exists", .obj [("field", .str column)])] => some (reading.present column)
  | .obj [("range", .obj [(column, .obj bounds)])] => reading.bounds? column bounds
  | .obj [("bool", .obj parts)] => do return (← occurrences? parts).hold
  | _ => none

/-- Whether each condition of a list holds. -/
def conditions? : List Json → Option (List Bool)
  | [] => some []
  | item :: rest => do return (← condition? item) :: (← conditions? rest)

/-- The clauses of a `bool` condition, in any order. -/
def occurrences? : List (String × Json) → Option Occurrences
  | [] => some {}
  | ("filter", .arr items) :: rest => do
    return { ← occurrences? rest with filter := ← conditions? items }
  | ("must_not", .arr items) :: rest => do
    return { ← occurrences? rest with mustNot := ← conditions? items }
  | ("should", .arr items) :: rest => do
    return { ← occurrences? rest with should := ← conditions? items }
  | ("minimum_should_match", .num (.int n)) :: rest => do
    return { ← occurrences? rest with minimum := some n }
  | _ => none

end

end Reading

/-! ## Monotone readings -/

/-- The comparisons that bound a range. -/
def Bounds.operators : List Operator := [.gt, .ge, .lt, .le]

/-- A column with a comparison and the value that it is compared with. -/
structure Bound where
  column : String
  operator : Operator
  value : Value

/-- The bounds in a condition of a query, at any depth. -/
def Reading.boundsOf : Expr → List Bound
  | .node (.op .and) [left, right] => boundsOf left ++ boundsOf right
  | .node (.op .or) [left, right] => boundsOf left ++ boundsOf right
  | .node (.op .not) [operand] => boundsOf operand
  | .node (.op o) [left, right] =>
    match right.literal? with
    | some value => if o ∈ Bounds.operators then [⟨columnOf left, o, value⟩] else []
    | none => []
  | _ => []

/-- The comparisons of a column with the given bounds follow the order of values: what is
below a bound is below every greater one, what is above a bound is above every smaller
one, and equal bounds say the same.  Nothing is asked of other bounds. -/
structure Reading.Monotone (reading : Reading) (given : List Bound) : Prop where
  below : ∀ {column : String} {v w : Value} {o : Operator}, o = .lt ∨ o = .le →
    ⟨column, o, v⟩ ∈ given → ⟨column, o, w⟩ ∈ given → v.compare w = some .lt →
    reading.bounded column o v.toJson → reading.bounded column o w.toJson
  above : ∀ {column : String} {v w : Value} {o : Operator}, o = .gt ∨ o = .ge →
    ⟨column, o, v⟩ ∈ given → ⟨column, o, w⟩ ∈ given → v.compare w = some .lt →
    reading.bounded column o w.toJson → reading.bounded column o v.toJson
  same : ∀ {column : String} {v w : Value} {o : Operator}, o ∈ Bounds.operators →
    ⟨column, o, v⟩ ∈ given → ⟨column, o, w⟩ ∈ given → v.compare w = some .eq →
    reading.bounded column o v.toJson = reading.bounded column o w.toJson

/-! ## Folded conditions -/

/-- Whether a column lies within bounds. -/
def Bounds.hold (reading : Reading) (column : String) (bounds : Bounds) : Bool :=
  operators.all fun o =>
    (bounds.get o).all fun value => reading.bounded column o value.toJson

namespace Clause

mutual

/-- Whether a folded condition holds. -/
def holds (reading : Reading) : Clause → Bool
  | .equal column value => reading.equal column value.toJson
  | .present column => reading.present column
  | .range column bounds => bounds.hold reading column
  | .all filter mustNot => (truths reading filter).all id && (truths reading mustNot).all (!·)
  | .any should => (truths reading should).any id

/-- The truth values of a list of folded conditions. -/
def truths (reading : Reading) : List Clause → List Bool
  | [] => []
  | clause :: rest => clause.holds reading :: truths reading rest

end

theorem truths_eq_map (reading : Reading) (clauses : List Clause) :
    truths reading clauses = clauses.map (holds reading) := by
  induction clauses with
  | nil => rfl
  | cons clause rest ih => rw [truths, ih, List.map_cons]

end Clause

/-! ## Folded conditions as they travel -/

theorem Reading.boundNamed?_nameOf {o : Operator} (range : o ∈ Bounds.operators) :
    boundNamed? (Bounds.nameOf o) = some o := by
  simp only [Bounds.operators, List.mem_cons, List.not_mem_nil, or_false] at range
  rcases range with rfl | rfl | rfl | rfl <;> rfl

/-- The fields of a range mean what the bounds mean. -/
theorem Reading.bounds?_filterMap (reading : Reading) (column : String) (bounds : Bounds)
    {operators : List Operator} (ranges : ∀ o ∈ operators, o ∈ Bounds.operators) :
    reading.bounds? column (operators.filterMap fun o =>
        (bounds.get o).map fun value => (Bounds.nameOf o, value.toJson)) =
      some (operators.all fun o =>
        (bounds.get o).all fun value => reading.bounded column o value.toJson) := by
  induction operators with
  | nil => rfl
  | cons o rest ih =>
      have ihRest := ih fun other mem => ranges other (List.mem_cons_of_mem o mem)
      cases present : bounds.get o with
      | none => simpa [present] using ihRest
      | some value =>
          have named := boundNamed?_nameOf (ranges o List.mem_cons_self)
          simp [present, bounds?, named, ihRest]

mutual

/-- The JSON value of a folded condition means what the condition means. -/
theorem Clause.condition?_toJson (reading : Reading) (clause : Clause) :
    reading.condition? clause.toJson = some (clause.holds reading) := by
  cases clause with
  | equal column value => rfl
  | present column => rfl
  | range column bounds =>
      exact reading.bounds?_filterMap column bounds fun _ mem => mem
  | all filter mustNot =>
      have filterOk := Clause.conditions?_listJson reading filter
      have mustNotOk := Clause.conditions?_listJson reading mustNot
      rw [Clause.toJson, Clause.wrap, Reading.condition?]
      cases filter <;> cases mustNot <;>
        simp [Reading.occurrences?, filterOk, mustNotOk, Clause.holds, Clause.truths,
          Occurrences.hold, Occurrences.least]
  | any should =>
      have shouldOk := Clause.conditions?_listJson reading should
      have read : reading.condition? (Clause.any should).toJson =
          some (Occurrences.hold ⟨[], [], Clause.truths reading should, some 1⟩) := by
        simp [Clause.toJson, Clause.wrap, Reading.condition?, Json.int, Reading.occurrences?,
          shouldOk]
      rw [read, Clause.holds, Occurrences.hold_of_one]

theorem Clause.conditions?_listJson (reading : Reading) (clauses : List Clause) :
    reading.conditions? (Clause.listJson clauses) = some (Clause.truths reading clauses) := by
  cases clauses with
  | nil => rfl
  | cons clause rest =>
      rw [Clause.listJson, Reading.conditions?, Clause.condition?_toJson,
        Clause.conditions?_listJson]
      rfl

end

end Polyquery.Search
