import Mathlib.Data.List.Sort
import Polyquery.Fields

/-!
# Entries in order

Collections whose names are strictly increasing are equal if they hold the same entries.
Changing the entries of a collection in the order of their names builds it from left to
right, and changes of one entry can be put together to one change.
-/

namespace Polyquery.Fields

variable {α β κ γ : Type} {name other : String} {value default : α} {change : α → α}
  {before after fields : Fields α}

/-! ## Looking up -/

theorem find?_set (name other : String) (value : α) (fields : Fields α) :
    find? other (set name value fields) =
      if other = name then some value else find? other fields := by
  split
  · rename_i same
    rw [same, find?_set_self]
  · rename_i different
    exact find?_set_of_ne value fields different

theorem find?_alter (name other : String) (default : α) (change : α → α) (fields : Fields α) :
    (find? other (alter name default change fields)).getD default =
      if other = name then change ((find? name fields).getD default)
      else (find? other fields).getD default := by
  rw [alter, find?_set]
  split <;> rfl

theorem find?_mapValues (f : α → β) (fields : Fields α) :
    find? name (mapValues f fields) = (find? name fields).map f := by
  induction fields with
  | nil => rfl
  | cons entry rest ih =>
      rw [mapValues, List.map_cons, find?, find?]
      split
      · rfl
      · exact ih

theorem mem_of_find?_eq_some (found : find? name fields = some value) : (name, value) ∈ fields := by
  induction fields with
  | nil => cases found
  | cons entry rest ih =>
      obtain ⟨key, first⟩ := entry
      rw [find?] at found
      split at found
      · rename_i same
        cases found
        rw [same]
        exact List.mem_cons_self
      · exact List.mem_cons_of_mem _ (ih found)

theorem find?_eq_none_iff : find? name fields = none ↔ ∀ entry ∈ fields, entry.1 ≠ name := by
  induction fields with
  | nil => exact iff_of_true rfl fun _ mem => absurd mem List.not_mem_nil
  | cons entry rest ih =>
      rw [find?, List.forall_mem_cons, ← ih]
      split
      · rename_i same
        exact iff_of_false (Option.some_ne_none _) fun all => all.1 same
      · rename_i different
        exact (and_iff_right different).symm

/-- Names that are paired with their values. -/
theorem find?_zip_map {names : List String} {values : String → α} :
    find? name (names.zip (names.map values)) =
      if name ∈ names then some (values name) else none := by
  induction names with
  | nil => rfl
  | cons first rest ih =>
      rw [List.map_cons, List.zip_cons_cons, find?, ih]
      by_cases same : first = name
      · simp [same]
      · simp [same, Ne.symm same]

/-- In order, a name has the values of its entries. -/
theorem find?_eq_some_iff (sorted : Sorted fields) :
    find? name fields = some value ↔ (name, value) ∈ fields := by
  refine ⟨mem_of_find?_eq_some, fun mem => ?_⟩
  induction fields with
  | nil => cases mem
  | cons entry rest ih =>
      obtain ⟨above, tail⟩ := List.pairwise_cons.mp sorted
      rw [find?]
      rcases List.mem_cons.mp mem with rfl | inRest
      · rw [if_pos rfl]
      · have different : entry.1 ≠ name := String.ne_of_lt (above _ inRest)
        rw [if_neg different]
        exact ih tail inRest

/-! ## Equality -/

/-- Collections in order are equal if they have the same value for every name. -/
theorem ext_find? {first second : Fields α} (sorted : Sorted first) (sorted' : Sorted second)
    (same : ∀ name, find? name first = find? name second) : first = second := by
  have : Std.Irrefl fun a b : String × α => a.1 < b.1 := ⟨fun a => String.lt_irrefl a.1⟩
  have : Std.Antisymm fun a b : String × α => a.1 < b.1 :=
    ⟨fun a b below above => absurd above (String.lt_asymm below)⟩
  refine List.Pairwise.eq_of_mem_iff sorted sorted' fun entry => ?_
  rw [← find?_eq_some_iff sorted, ← find?_eq_some_iff sorted', same]

/-- In order, and every value is good. -/
def Each (good : α → Prop) (fields : Fields α) : Prop :=
  Sorted fields ∧ ∀ entry ∈ fields, good entry.2

instance (fields : Fields α) : Decidable (Sorted fields) :=
  inferInstanceAs (Decidable (List.Pairwise _ fields))

instance (good : α → Prop) [DecidablePred good] (fields : Fields α) :
    Decidable (fields.Each good) :=
  inferInstanceAs (Decidable (_ ∧ _))

/-- Collections of values that show something are equal if they show the same. -/
theorem Each.ext {good : α → Prop} (show? : α → κ → Option γ)
    (inner : ∀ a b, good a → good b → (∀ k, show? a k = show? b k) → a = b)
    (shows : ∀ a, good a → ∃ k, show? a k ≠ none) {first second : Fields α}
    (each : first.Each good) (each' : second.Each good)
    (same : ∀ name k, (find? name first).bind (show? · k) = (find? name second).bind (show? · k)) :
    first = second := by
  refine ext_find? each.1 each'.1 fun name => ?_
  have goodFirst (a : α) (found : find? name first = some a) : good a :=
    each.2 _ (mem_of_find?_eq_some found)
  have goodSecond (a : α) (found : find? name second = some a) : good a :=
    each'.2 _ (mem_of_find?_eq_some found)
  cases left : find? name first with
  | none =>
      cases right : find? name second with
      | none => rfl
      | some b =>
          obtain ⟨k, shown⟩ := shows b (goodSecond b right)
          have missing := same name k
          rw [left, right] at missing
          exact absurd missing.symm shown
  | some a =>
      cases right : find? name second with
      | none =>
          obtain ⟨k, shown⟩ := shows a (goodFirst a left)
          have missing := same name k
          rw [left, right] at missing
          exact absurd missing shown
      | some b =>
          refine congrArg some (inner a b (goodFirst a left) (goodSecond b right) fun k => ?_)
          have alike := same name k
          rwa [left, right] at alike

/-- A change keeps the values good if it makes a good value of every good value and of the
default. -/
theorem Each.alter {good : α → Prop} (each : fields.Each good)
    (fresh : good (change default)) (kept : ∀ a, good a → good (change a)) :
    (Fields.alter name default change fields).Each good := by
  refine ⟨sorted_set _ _ each.1, fun entry mem => ?_⟩
  rcases mem_set mem with rfl | old
  · cases found : find? name fields with
    | none => exact fresh
    | some a => exact kept a (each.2 _ (mem_of_find?_eq_some found))
  · exact each.2 entry old

/-! ## Building from left to right -/

/-- An entry above all others is put at the end. -/
theorem set_eq_append (above : ∀ entry ∈ fields, entry.1 < name) :
    set name value fields = fields ++ [(name, value)] := by
  induction fields with
  | nil => rfl
  | cons entry rest ih =>
      obtain ⟨key, old⟩ := entry
      obtain ⟨below, aboveRest⟩ := List.forall_mem_cons.mp above
      have different : ¬ name = key := fun same => String.lt_irrefl key (same ▸ below)
      rw [set, if_neg (String.lt_asymm below), if_neg different, ih aboveRest]
      rfl

theorem foldl_set_eq_append (sorted : Sorted (before ++ after)) :
    after.foldl (fun fields entry => set entry.1 entry.2 fields) before = before ++ after := by
  induction after generalizing before with
  | nil => simp
  | cons entry rest ih =>
      have above : ∀ earlier ∈ before, earlier.1 < entry.1 :=
        fun earlier mem => (List.pairwise_append.mp sorted).2.2 earlier mem entry List.mem_cons_self
      rw [List.foldl_cons, set_eq_append above, ih (by simpa using sorted)]
      simp

/-- Entries in order are a collection as they are. -/
theorem ofList_eq_self (sorted : Sorted fields) : ofList fields = fields :=
  @foldl_set_eq_append α [] fields sorted

/-- A change of an entry that comes behind all others adds it. -/
theorem alter_eq_append (above : ∀ entry ∈ fields, entry.1 < name) :
    alter name default change fields = fields ++ [(name, change default)] := by
  have none : find? name fields = none :=
    find?_eq_none_iff.mpr fun entry mem => String.ne_of_lt (above entry mem)
  rw [alter, none, set_eq_append above]
  rfl

theorem sorted_mapValues {f : α → β} (sorted : Sorted fields) : Sorted (mapValues f fields) :=
  List.pairwise_map.mpr sorted

/-- Changes in the order of the names build a collection of the changed defaults. -/
theorem foldl_alter_eq_mapValues {items : Fields β} (change : β → α → α) (default : α)
    (sorted : Sorted items) :
    items.foldl (fun fields item => alter item.1 default (change item.2) fields) [] =
      mapValues (fun item => change item default) items := by
  suffices general : ∀ before : Fields β, Sorted (before ++ items) →
      items.foldl (fun fields item => alter item.1 default (change item.2) fields)
        (mapValues (fun item => change item default) before) =
        mapValues (fun item => change item default) (before ++ items) from general [] sorted
  clear sorted
  induction items with
  | nil => simp
  | cons item rest ih =>
      intro before sorted
      have above : ∀ entry ∈ mapValues (fun item => change item default) before,
          entry.1 < item.1 := by
        intro entry mem
        obtain ⟨earlier, inBefore, rfl⟩ := List.mem_map.mp mem
        exact (List.pairwise_append.mp sorted).2.2 earlier inBefore item List.mem_cons_self
      have next := ih (before ++ [item]) (by simpa using sorted)
      rw [List.foldl_cons, alter_eq_append above]
      simpa [mapValues] using next

/-! ## Changes of one entry -/

theorem set_ne_nil (name : String) (value : α) (fields : Fields α) :
    set name value fields ≠ [] := by
  cases fields with
  | nil => exact List.cons_ne_nil _ _
  | cons entry rest =>
      rw [set]
      split_ifs <;> exact List.cons_ne_nil _ _

theorem set_set (name : String) (first second : α) (fields : Fields α) :
    set name second (set name first fields) = set name second fields := by
  induction fields with
  | nil => simp [set]
  | cons entry rest ih =>
      obtain ⟨key, old⟩ := entry
      simp only [set]
      split
      · simp [set]
      · split
        · simp [set]
        · rename_i notBelow different
          rw [set, if_neg notBelow, if_neg different, ih]

theorem alter_alter (name : String) (default : α) (first second : α → α) (fields : Fields α) :
    alter name default second (alter name default first fields) =
      alter name default (fun value => second (first value)) fields := by
  rw [alter, alter, alter, find?_set_self, set_set]
  rfl

/-- Changes of one entry can be put together. -/
theorem foldl_alter (name : String) (default : α) (first : α → α) (change : β → α → α)
    (items : List β) (fields : Fields α) :
    items.foldl (fun fields item => alter name default (change item) fields)
        (alter name default first fields) =
      alter name default
        (fun value => items.foldl (fun value item => change item value) (first value)) fields := by
  induction items generalizing first with
  | nil => rfl
  | cons item rest ih => rw [List.foldl_cons, alter_alter, ih]; rfl

theorem mapValues_eq_self {f : α → α} (same : ∀ entry ∈ fields, f entry.2 = entry.2) :
    mapValues f fields = fields := by
  rw [mapValues, List.map_congr_left fun entry mem => by rw [same entry mem], List.map_id'']
  exact fun entry => rfl

theorem mapValues_mapValues (f : α → β) (g : β → γ) (fields : Fields α) :
    mapValues g (mapValues f fields) = mapValues (fun value => g (f value)) fields :=
  List.map_map

end Polyquery.Fields
