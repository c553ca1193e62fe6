import Polyquery.Proofs.Search.Folding
import Polyquery.Proofs.Value.Rounding

/-!
# How far comparing is an order

Values of one family compare like an order, except that a floating point number is equal to every
whole number that rounds to it.  Two such whole numbers and the floating point number between them
are what a chain of comparisons can go wrong with.  Bounds that are tightened one after another
still end at the tightest, in whatever order they come.
-/

namespace Polyquery

open Double

namespace Value

variable {a b c : Value}

/-- The families of values that have an order. -/
inductive Family where
  | truth
  | number
  | text
  | date
deriving DecidableEq

/-- The family of a value.  Null and what is not a number are in none. -/
def family? : Value → Option Family
  | .null => none
  | .bool _ => some .truth
  | .int _ => some .number
  | .float x => if x.isNaN then none else some .number
  | .str _ => some .text
  | .date _ => some .date

/-- A value is less than another one or equal to it. -/
def AtMost (a b : Value) : Prop :=
  a.compare b = some .lt ∨ a.compare b = some .eq

/-- Two comparisons in a row are one: it is an equality exactly if both are. -/
def Chains (a b c : Value) : Prop :=
  AtMost a b → AtMost b c →
    AtMost a c ∧ (a.compare c = some .eq ↔ a.compare b = some .eq ∧ b.compare c = some .eq)

/-- Two different whole numbers are equal to one floating point number. -/
def Blurs (m n : ℤ) (x : Float) : Prop :=
  m ≠ n ∧ (int m).compare (.float x) = some .eq ∧ (int n).compare (.float x) = some .eq

/-! ## Families without rounding -/

/-- A comparison that is lawful chains. -/
theorem chains_of_transCmp {α : Type} {cmp : α → α → Ordering} [Std.TransCmp cmp]
    {value : α → Value} (compares : ∀ x y, (value x).compare (value y) = some (cmp x y))
    (x y z : α) : Chains (value x) (value y) (value z) := by
  intro first second
  simp only [AtMost, compares, Option.some.injEq] at first second ⊢
  rcases first with less | same
  · have whole : cmp x z = .lt := by
      rcases second with less' | same'
      · exact Std.TransCmp.lt_trans less less'
      · exact Std.TransCmp.lt_of_lt_of_eq less same'
    simp [whole, less]
  · rw [Std.TransCmp.congr_left same, same]
    simpa using second

instance : Std.TransCmp compareBool where
  eq_swap {a b} := by cases a <;> cases b <;> rfl
  isLE_trans {a b c} := by cases a <;> cases b <;> cases c <;> decide

instance : Std.TransCmp compareText :=
  inferInstanceAs (Std.TransCmp fun a b : String => Ord.compare a b)

theorem order_go_eq {first second : List ℤ} (same : first.length = second.length) :
    Timestamp.order.go first second = List.compareLex Ord.compare first second := by
  induction first generalizing second with
  | nil => cases second with
    | nil => rfl
    | cons y ys => simp at same
  | cons x xs ih => cases second with
    | nil => simp at same
    | cons y ys =>
        rw [Timestamp.order.go, ih (by simpa using same), List.compareLex_cons_cons]

instance : Std.TransCmp Timestamp.order where
  eq_swap {a b} := (Timestamp.order_swap b a)
  isLE_trans {a b c} := by
    have lex (s t : Timestamp) : s.order t = List.compareLex Ord.compare s.parts t.parts :=
      order_go_eq rfl
    rw [lex, lex, lex]
    exact Std.TransCmp.isLE_trans

/-! ## Numbers -/

/-- A number with its rank. -/
inductive Ranked : Value → ℤ → Prop
  | int (n : ℤ) : Ranked (.int n) (rankOfInt n)
  | float {x : Float} {i : ℤ} (rank : rankOf? x = some i) : Ranked (.float x) i

/-- Two numbers compare as their ranks, unless both are whole. -/
theorem Ranked.compare_eq {i j : ℤ} (first : Ranked a i) (second : Ranked b j) :
    a.compare b = some (Ord.compare i j) ∨
      ∃ m n, a = .int m ∧ b = .int n ∧ i = rankOfInt m ∧ j = rankOfInt n := by
  cases first with
  | int m =>
      cases second with
      | int n => exact .inr ⟨m, n, rfl, rfl, rfl, rfl⟩
      | float rank =>
          rw [Value.compare, compareFloat_eq, rankOf?_ofInt, rank]
          exact .inl rfl
  | float rank =>
      cases second with
      | int n =>
          rw [Value.compare, compareFloat_eq, rankOf?_ofInt, rank]
          exact .inl rfl
      | float rank' =>
          rw [Value.compare, compareFloat_eq, rank, rank']
          exact .inl rfl

variable {i j k : ℤ}

/-- What is at most another number has at most its rank. -/
theorem Ranked.le_of_atMost (first : Ranked a i) (second : Ranked b j) (less : AtMost a b) :
    i ≤ j := by
  rcases first.compare_eq second with ranks | ⟨m, n, rfl, rfl, rfl, rfl⟩
  · simp only [AtMost, ranks, Option.some.injEq, compare_lt_iff_lt, compare_eq_iff_eq] at less
    omega
  · have compared : Value.compare (.int m) (.int n) = some (Ord.compare m n) := rfl
    simp only [AtMost, compared, Option.some.injEq, compare_lt_iff_lt, compare_eq_iff_eq] at less
    exact rankOfInt_mono (by omega)

/-- A lower rank decides. -/
theorem Ranked.compare_of_lt (first : Ranked a i) (second : Ranked b j) (below : i < j) :
    a.compare b = some .lt := by
  rcases first.compare_eq second with ranks | ⟨m, n, rfl, rfl, rfl, rfl⟩
  · rw [ranks, compare_lt_iff_lt.mpr below]
  · have less : m < n := not_le.mp fun notLess => below.not_ge (rankOfInt_mono notLess)
    change some (Ord.compare m n) = _
    rw [compare_lt_iff_lt.mpr less]

theorem Ranked.eq_of_compare (first : Ranked a i) (second : Ranked b j)
    (same : a.compare b = some .eq) : i = j := by
  rcases first.compare_eq second with ranks | ⟨m, n, rfl, rfl, rfl, rfl⟩
  · rwa [ranks, Option.some.injEq, compare_eq_iff_eq] at same
  · change some (Ord.compare m n) = _ at same
    rw [Option.some.injEq, compare_eq_iff_eq] at same
    rw [same]

/-- Two numbers of one rank are equal if one of them is a floating point number, or both are the
same whole number. -/
theorem Ranked.compare_self (first : Ranked a i) (second : Ranked b i)
    (clear : ∀ m n, a = .int m → b = .int n → m = n) : a.compare b = some .eq := by
  rcases first.compare_eq second with ranks | ⟨m, n, rfl, rfl, -, -⟩
  · rw [ranks, compare_eq_iff_eq.mpr rfl]
  · change some (Ord.compare m n) = _
    rw [compare_eq_iff_eq.mpr (clear m n rfl rfl)]

theorem compare_int (m n : ℤ) : Value.compare (.int m) (.int n) = some (Ord.compare m n) := rfl

/-- Numbers chain unless two whole numbers are equal to one floating point number. -/
theorem Ranked.chains (first : Ranked a i) (second : Ranked b j) (third : Ranked c k)
    (clear : ∀ m n x, .int m ∈ [a, b, c] → .int n ∈ [a, b, c] → .float x ∈ [a, b, c] →
      ¬ Blurs m n x) : Chains a b c := by
  intro less less'
  have low := first.le_of_atMost second less
  have high := second.le_of_atMost third less'
  rcases (low.trans high).lt_or_eq with below | rfl
  · have whole := first.compare_of_lt third below
    refine ⟨.inl whole, ⟨fun same => ?_, fun ⟨same, same'⟩ => ?_⟩⟩
    · rw [whole] at same
      cases same
    · have := first.eq_of_compare second same
      have := second.eq_of_compare third same'
      omega
  · obtain rfl : i = j := le_antisymm low high
    have ranked : ∀ v ∈ [a, b, c], Ranked v i := by
      simp only [List.mem_cons, List.not_mem_nil, or_false]
      rintro v (rfl | rfl | rfl)
      exacts [first, second, third]
    by_cases rounds : ∃ x, .float x ∈ [a, b, c]
    · -- Then all three are equal.
      obtain ⟨x, inList⟩ := rounds
      have rank := ranked _ inList
      have one (m n : ℤ) (mem : .int m ∈ [a, b, c]) (mem' : .int n ∈ [a, b, c]) : m = n := by
        by_contra different
        exact clear m n x mem mem' inList ⟨different,
          (ranked _ mem).compare_self rank (fun _ _ _ impossible => nomatch impossible),
          (ranked _ mem').compare_self rank (fun _ _ _ impossible => nomatch impossible)⟩
      have equal : ∀ v ∈ [a, b, c], ∀ w ∈ [a, b, c], v.compare w = some .eq :=
        fun v mem w mem' => (ranked v mem).compare_self (ranked w mem') fun m n isInt isInt' =>
          one m n (isInt ▸ mem) (isInt' ▸ mem')
      simp only [List.forall_mem_cons] at equal
      simp [AtMost, equal]
    · have ints : ∀ v ∈ [a, b, c], ∃ n, v = .int n := by
        intro v mem
        cases ranked v mem with
        | int n => exact ⟨n, rfl⟩
        | float => exact absurd ⟨_, mem⟩ rounds
      simp only [List.forall_mem_cons] at ints
      obtain ⟨⟨l, rfl⟩, ⟨m, rfl⟩, ⟨n, rfl⟩, -⟩ := ints
      exact chains_of_transCmp compare_int l m n less less'

/-- Even where numbers do not chain, a comparison that is no equality carries over. -/
theorem Ranked.atMost_trans (first : Ranked a i) (second : Ranked b j) (third : Ranked c k)
    (less : AtMost a b) (less' : AtMost b c)
    (strict : ¬ (a.compare b = some .eq ∧ b.compare c = some .eq)) : AtMost a c := by
  have low := first.le_of_atMost second less
  have high := second.le_of_atMost third less'
  rcases (low.trans high).lt_or_eq with below | rfl
  · exact .inl (first.compare_of_lt third below)
  · obtain rfl : i = j := le_antisymm low high
    rcases first.compare_eq third with ranks | ⟨l, n, rfl, rfl, -, -⟩
    · exact .inr (by rw [ranks, compare_eq_iff_eq.mpr rfl])
    · by_cases whole : ∃ m, b = .int m
      · obtain ⟨m, rfl⟩ := whole
        exact (chains_of_transCmp compare_int l m n less less').1
      · exact absurd ⟨first.compare_self second fun _ m _ isInt => absurd ⟨m, isInt⟩ whole,
          second.compare_self third fun m _ isInt _ => absurd ⟨m, isInt⟩ whole⟩ strict

/-! ## Families -/

/-- What the values of a family are. -/
def Family.Holds : Family → Value → Prop
  | truth, v => ∃ x, v = .bool x
  | number, v => ∃ i, Ranked v i
  | text, v => ∃ x, v = .str x
  | date, v => ∃ t, v = .date t

theorem holds_of_family? {family : Family} (alike : a.family? = some family) : family.Holds a := by
  cases a <;> simp only [family?, Option.some.injEq, reduceCtorEq] at alike
  case bool x => exact alike ▸ ⟨x, rfl⟩
  case int n => exact alike ▸ ⟨_, .int n⟩
  case str x => exact alike ▸ ⟨x, rfl⟩
  case date t => exact alike ▸ ⟨t, rfl⟩
  case float x =>
    split at alike
    · cases alike
    · rename_i notNaN
      obtain ⟨i, rank⟩ := Option.ne_none_iff_exists'.mp (mt isNaN_iff.mpr notNaN)
      exact Option.some.inj alike ▸ ⟨i, .float rank⟩

theorem compareFloat_swap (x y : Float) :
    compareFloat y x = (compareFloat x y).map Ordering.swap := by
  rw [compareFloat_eq, compareFloat_eq]
  cases rankOf? x with
  | none => cases rankOf? y <;> rfl
  | some i => cases rankOf? y with
    | none => rfl
    | some j => exact congrArg some Std.OrientedOrd.eq_swap

/-- The other way round a comparison is reversed. -/
theorem compare_swap (a b : Value) : b.compare a = (a.compare b).map Ordering.swap := by
  cases a <;> cases b <;> try rfl
  case bool.bool x y => exact congrArg some (compareBool_swap x y)
  case int.int m n => exact congrArg some Std.OrientedOrd.eq_swap
  case int.float m x => exact compareFloat_swap _ x
  case float.int x m => exact compareFloat_swap x _
  case float.float x y => exact compareFloat_swap x y
  case str.str x y =>
    exact congrArg some (Std.OrientedOrd.eq_swap (α := String))
  case date.date s t => exact congrArg some (Timestamp.order_swap s t)

theorem atMost_iff_swap : AtMost b a ↔ a.compare b = some .gt ∨ a.compare b = some .eq := by
  rw [AtMost, compare_swap a b]
  cases a.compare b with
  | none => simp
  | some order => cases order <;> simp

variable {family : Family}

/-- All families but that of the numbers compare lawfully. -/
theorem lawful_of_ne_number (other : family ≠ .number) :
    ∃ (α : Type) (cmp : α → α → Ordering) (_ : Std.TransCmp cmp) (value : α → Value),
      (∀ x y, (value x).compare (value y) = some (cmp x y)) ∧
        ∀ v, family.Holds v → ∃ x, v = value x := by
  cases family with
  | truth => exact ⟨_, compareBool, inferInstance, .bool, fun _ _ => rfl, fun _ holds => holds⟩
  | number => exact absurd rfl other
  | text => exact ⟨_, compareText, inferInstance, .str, fun _ _ => rfl, fun _ holds => holds⟩
  | date => exact ⟨_, Timestamp.order, inferInstance, .date, fun _ _ => rfl, fun _ holds => holds⟩

/-- Values of one family can be compared. -/
theorem exists_compare (first : family.Holds a) (second : family.Holds b) :
    ∃ order, a.compare b = some order := by
  by_cases number : family = .number
  · subst number
    obtain ⟨i, ranked⟩ := first
    obtain ⟨j, ranked'⟩ := second
    rcases ranked.compare_eq ranked' with ranks | ⟨m, n, rfl, rfl, -⟩
    · exact ⟨_, ranks⟩
    · exact ⟨_, rfl⟩
  · obtain ⟨α, cmp, lawful, value, compares, views⟩ := lawful_of_ne_number number
    obtain ⟨x, rfl⟩ := views _ first
    obtain ⟨y, rfl⟩ := views _ second
    exact ⟨_, compares x y⟩

theorem chains_of_ne_number (other : family ≠ .number) (first : family.Holds a)
    (second : family.Holds b) (third : family.Holds c) : Chains a b c := by
  obtain ⟨α, cmp, lawful, value, compares, views⟩ := lawful_of_ne_number other
  obtain ⟨x, rfl⟩ := views _ first
  obtain ⟨y, rfl⟩ := views _ second
  obtain ⟨z, rfl⟩ := views _ third
  exact chains_of_transCmp compares x y z

/-- Values of one family chain unless two whole numbers among them are equal to a floating point
number. -/
theorem chains_of_holds (first : family.Holds a) (second : family.Holds b) (third : family.Holds c)
    (clear : ∀ m n x, .int m ∈ [a, b, c] → .int n ∈ [a, b, c] → .float x ∈ [a, b, c] →
      ¬ Blurs m n x) : Chains a b c := by
  by_cases number : family = .number
  · subst number
    obtain ⟨i, ranked⟩ := first
    obtain ⟨j, ranked'⟩ := second
    obtain ⟨k, ranked''⟩ := third
    exact ranked.chains ranked' ranked'' clear
  · exact chains_of_ne_number number first second third

theorem atMost_trans (first : family.Holds a) (second : family.Holds b) (third : family.Holds c)
    (less : AtMost a b) (less' : AtMost b c)
    (strict : ¬ (a.compare b = some .eq ∧ b.compare c = some .eq)) : AtMost a c := by
  by_cases number : family = .number
  · subst number
    obtain ⟨i, ranked⟩ := first
    obtain ⟨j, ranked'⟩ := second
    obtain ⟨k, ranked''⟩ := third
    exact ranked.atMost_trans ranked' ranked'' less less' strict
  · exact (chains_of_ne_number number first second third less less').1

end Value

namespace Search.Bounds

open Value (Family AtMost)

variable {o : Operator} {family : Family} {v w r : Value} {values others : List Value}

/-! ## Tightening -/

/-- The bounds that are left of a list of bounds for one comparison. -/
def tightened? (o : Operator) (values : List Value) : Option Bounds :=
  values.foldlM (fun bounds value => bounds.tighten? o value) none

/-- A bound is tighter than another one or equal to it. -/
def AsTight (o : Operator) (r v : Value) : Prop :=
  r.compare v = some (tighter o) ∨ r.compare v = some .eq

theorem tighter_cases (o : Operator) : tighter o = .lt ∨ tighter o = .gt := by
  cases o <;> simp [tighter]

theorem asTight_refl (holds : family.Holds v) : AsTight o v v := by
  obtain ⟨order, compared⟩ := Value.exists_compare holds holds
  have swapped := Value.compare_swap v v
  rw [compared, Option.map_some, Option.some.injEq] at swapped
  cases order with
  | eq => exact .inr compared
  | lt => cases swapped
  | gt => cases swapped

/-- What beats a bound is as tight as all that the bound is as tight as. -/
theorem asTight_trans (holds : family.Holds v) (holds' : family.Holds r) (holds'' : family.Holds w)
    (beats : v.compare r = some (tighter o)) (tight : AsTight o r w) : AsTight o v w := by
  unfold AsTight at tight ⊢
  rcases tighter_cases o with least | most
  · rw [least] at beats tight ⊢
    refine Value.atMost_trans holds holds' holds'' (.inl beats) tight fun same => ?_
    rw [beats] at same
    cases same.1
  · rw [most] at beats tight ⊢
    rw [← Value.atMost_iff_swap] at tight ⊢
    have less : r.compare v = some .lt := by
      rw [Value.compare_swap v r, beats]
      rfl
    refine Value.atMost_trans holds'' holds' holds tight (.inl less) fun same => ?_
    rw [less] at same
    cases same.2

/-- A bound that is not beaten by another one is as tight as it. -/
theorem asTight_of_not_beats (holds : family.Holds r) (holds' : family.Holds v)
    (unbeaten : v.compare r ≠ some (tighter o)) : AsTight o r v := by
  obtain ⟨order, compared⟩ := Value.exists_compare holds' holds
  rw [AsTight, Value.compare_swap v r, compared]
  rw [compared] at unbeaten
  rcases tighter_cases o with least | most
  · rw [least] at unbeaten ⊢
    cases order <;> simp_all
  · rw [most] at unbeaten ⊢
    cases order <;> simp_all

/-- Two bounds that are as tight as each other are equal. -/
theorem compare_eq_of_asTight (tight : AsTight o r v) (tight' : AsTight o v r) :
    r.compare v = some .eq := by
  refine tight.resolve_left fun beats => ?_
  rw [AsTight, Value.compare_swap r v, beats] at tight'
  rcases tighter_cases o with least | most
  · simp [least] at tight'
  · simp [most] at tight'

theorem put_put (o : Operator) (v w : Value) (bounds : Bounds) :
    (bounds.put o v).put o w = bounds.put o w := by
  cases o <;> rfl

/-- One step: the bound that is held changes exactly if it is beaten. -/
theorem tighten?_put (range : o ∈ operators) (holds : family.Holds r) (holds' : family.Holds v) :
    (none.put o r).tighten? o v =
      some (none.put o (if v.compare r = some (tighter o) then v else r)) := by
  obtain ⟨order, compared⟩ := Value.exists_compare holds' holds
  simp only [tighten?, get_put_self range, compared, Option.some.injEq, put_put]
  split <;> rfl

/-- The bound that is held stays as tight as all that have come. -/
theorem foldlM_tighten? (range : o ∈ operators) {seen : List Value} (mem : r ∈ seen)
    (tight : ∀ v ∈ seen, AsTight o r v) (alike : ∀ v ∈ seen ++ values, family.Holds v) :
    ∃ tightest ∈ seen ++ values,
      values.foldlM (fun bounds value => bounds.tighten? o value) (none.put o r) =
        some (none.put o tightest) ∧ ∀ v ∈ seen ++ values, AsTight o tightest v := by
  induction values generalizing r seen with
  | nil => exact ⟨r, by simpa using mem, rfl, by simpa using tight⟩
  | cons v rest ih =>
      have next : seen ++ v :: rest = (seen ++ [v]) ++ rest := by simp
      have holds := alike r (List.mem_append_left _ mem)
      have holds' := alike v (by simp)
      rw [List.foldlM_cons, tighten?_put range holds holds', next]
      rw [next] at alike
      split
      · rename_i beats
        refine ih (by simp) (fun w inSeen => ?_) alike
        rcases List.mem_append.mp inSeen with earlier | last
        · exact asTight_trans holds' holds (alike w (by simp [earlier])) beats (tight w earlier)
        · rw [List.mem_singleton.mp last]
          exact asTight_refl holds'
      · rename_i unbeaten
        refine ih (by simp [mem]) (fun w inSeen => ?_) alike
        rcases List.mem_append.mp inSeen with earlier | last
        · exact tight w earlier
        · rw [List.mem_singleton.mp last]
          exact asTight_of_not_beats holds holds' unbeaten

/-- Bounds of one family end at one that is as tight as all of them. -/
theorem exists_tightened? (range : o ∈ operators) (some : values ≠ [])
    (alike : ∀ v ∈ values, family.Holds v) :
    ∃ tightest ∈ values, tightened? o values = Option.some (none.put o tightest) ∧
      ∀ v ∈ values, AsTight o tightest v := by
  match values, some with
  | v :: rest, _ =>
    have empty : none.get o = Option.none := by cases o <;> rfl
    have first : none.tighten? o v = Option.some (none.put o v) := by rw [tighten?, empty]
    have start : ∀ w ∈ [v], AsTight o v w := by
      simpa using asTight_refl (alike v (by simp))
    rw [tightened?, List.foldlM_cons, first]
    exact foldlM_tighten? range (List.mem_singleton_self v) start alike

/-- The order in which bounds come does not matter. -/
theorem compare_tightened? (range : o ∈ operators) (some : values ≠ [])
    (alike : ∀ v ∈ values, family.Holds v) (same : others.Perm values) :
    ∃ tightest ∈ values, ∃ tightest' ∈ others,
      tightened? o values = Option.some (none.put o tightest) ∧
      tightened? o others = Option.some (none.put o tightest') ∧
      tightest.compare tightest' = Option.some .eq ∧ ∀ v ∈ values, AsTight o tightest v := by
  obtain ⟨tightest, mem, found, tight⟩ := exists_tightened? range some alike
  have some' : others ≠ [] := fun empty => some (List.perm_nil.mp (empty ▸ same.symm))
  obtain ⟨tightest', mem', found', tight'⟩ :=
    exists_tightened? range some' fun v inOthers => alike v (same.mem_iff.mp inOthers)
  exact ⟨tightest, mem, tightest', mem', found, found',
    compare_eq_of_asTight (tight _ (same.mem_iff.mp mem')) (tight' _ (same.mem_iff.mpr mem)), tight⟩

/-- Values of one family can be compared, and the other way round the comparison is reversed.
Their comparisons chain exactly if no two whole numbers among them are equal to one floating point
number.  In either case bounds are tightened to the tightest of them, whatever their order. -/
theorem consistent_iff (family : Family) (among : Set Value)
    (alike : ∀ v ∈ among, v.family? = some family) :
    (∀ a ∈ among, ∀ b ∈ among, ∃ order,
      a.compare b = some order ∧ b.compare a = some order.swap) ∧
    ((∀ a ∈ among, ∀ b ∈ among, ∀ c ∈ among, Value.Chains a b c) ↔
      ∀ m n x, .int m ∈ among → .int n ∈ among → .float x ∈ among → ¬ Value.Blurs m n x) ∧
    ∀ o ∈ operators, ∀ bounds others : List Value, bounds ≠ [] → (∀ v ∈ bounds, v ∈ among) →
      others.Perm bounds → ∃ tightest ∈ bounds, ∃ tightest' ∈ others,
        tightened? o bounds = some (none.put o tightest) ∧
        tightened? o others = some (none.put o tightest') ∧
        tightest.compare tightest' = some .eq ∧ ∀ v ∈ bounds, AsTight o tightest v := by
  have holds : ∀ v ∈ among, family.Holds v := fun v mem => Value.holds_of_family? (alike v mem)
  refine ⟨fun a mem b mem' => ?_, ⟨fun chains m n x mem mem' inAmong blurs => ?_,
    fun clear a mem b mem' c mem'' => ?_⟩, fun o range bounds others some within same => ?_⟩
  · obtain ⟨order, compared⟩ := Value.exists_compare (holds a mem) (holds b mem')
    refine ⟨order, compared, ?_⟩
    rw [Value.compare_swap a b, compared]
    rfl
  · obtain ⟨different, equal, equal'⟩ := blurs
    have back : (Value.float x).compare (.int n) = Option.some .eq := by
      rw [Value.compare_swap (.int n), equal']
      rfl
    have whole := (chains _ mem _ inAmong _ mem' (.inr equal) (.inr back)).2.mpr ⟨equal, back⟩
    rw [Value.compare_int, Option.some.injEq, compare_eq_iff_eq] at whole
    exact different whole
  · refine Value.chains_of_holds (holds a mem) (holds b mem') (holds c mem'') ?_
    have within : ∀ v ∈ [a, b, c], v ∈ among := by simp [mem, mem', mem'']
    exact fun m n x inList inList' inList'' =>
      clear m n x (within _ inList) (within _ inList') (within _ inList'')
  · exact compare_tightened? range some (fun v mem => holds v (within v mem)) same

/-- Numbers of votes, written in different ways. -/
def votes : Set Value :=
  {.int 9007199254740993, .float 9007199254740992.0, .int 12, .float 12.5}

theorem consistent_iff_votes :
    (∀ v ∈ votes, v.family? = some .number) ∧
    (∀ a ∈ votes, ∀ b ∈ votes, ∀ c ∈ votes, Value.Chains a b c) ∧
    ∃ tightest ∈ [.int 9007199254740993, .int 12, .float 12.5],
      ∃ tightest' ∈ [.float 12.5, .int 12, .int 9007199254740993],
        tightened? .lt [.int 9007199254740993, .int 12, .float 12.5] =
          some (none.put .lt tightest) ∧
        tightened? .lt [.float 12.5, .int 12, .int 9007199254740993] =
          some (none.put .lt tightest') ∧
        tightest.compare tightest' = some .eq := by
  have alike : ∀ v ∈ votes, v.family? = some .number := by
    rintro v (rfl | rfl | rfl | rfl) <;> decide +kernel
  obtain ⟨-, chains, tightens⟩ := consistent_iff .number votes alike
  refine ⟨alike, chains.mpr ?_, ?_⟩
  · rintro m n x first second third ⟨different, equal, equal'⟩
    have whole (k : ℤ) (mem : Value.int k ∈ votes) : k = 9007199254740993 ∨ k = 12 := by
      simpa [votes] using mem
    have rounded : x = 9007199254740992.0 ∨ x = 12.5 := by simpa [votes] using third
    have notTwelve (k : ℤ) (twelve : k = 12) :
        (Value.int k).compare (.float x) ≠ some .eq := by
      rcases rounded with rfl | rfl <;> subst twelve <;> decide +kernel
    have large := (whole m first).resolve_right fun twelve => notTwelve m twelve equal
    have large' := (whole n second).resolve_right fun twelve => notTwelve n twelve equal'
    exact different (large.trans large'.symm)
  · obtain ⟨tightest, mem, tightest', mem', found, found', equal, -⟩ := tightens .lt (by decide)
      [.int 9007199254740993, .int 12, .float 12.5] [.float 12.5, .int 12, .int 9007199254740993]
      (by decide) (by simp [votes]) (by decide +kernel)
    exact ⟨tightest, mem, tightest', mem', found, found', equal⟩

/-- The floating point number between them is equal to both, but they differ. -/
theorem not_chains_roundedVotes :
    (Value.int 9007199254740993).compare (.float 9007199254740992.0) = some .eq ∧
    (Value.float 9007199254740992.0).compare (.int 9007199254740992) = some .eq ∧
    (Value.int 9007199254740993).compare (.int 9007199254740992) = some .gt ∧
    ¬ ∀ (family : Family) (a b c : Value), a.family? = some family → b.family? = some family →
      c.family? = some family → Value.Chains a b c := by
  refine ⟨by decide +kernel, by decide +kernel, by decide, fun always => ?_⟩
  have chains := always .number (.int 9007199254740993) (.float 9007199254740992.0)
    (.int 9007199254740992) (by decide) (by decide +kernel) (by decide)
  have whole := chains (.inr (by decide +kernel)) (.inr (by decide +kernel))
  exact absurd (whole.2.mpr ⟨by decide +kernel, by decide +kernel⟩) (by decide)

end Search.Bounds

end Polyquery
