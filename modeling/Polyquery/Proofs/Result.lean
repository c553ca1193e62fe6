import Polyquery.Error

/-!
# Results

A chain of steps gives a result exactly when each of its steps does.
-/

namespace Polyquery.Result

variable {α β : Type}

theorem bind_eq_ok {x : Result α} {f : α → Result β} {b : β} :
    (x >>= f) = .ok b ↔ ∃ a, x = .ok a ∧ f a = .ok b := by
  cases x with
  | error e => simp [bind, Except.bind]
  | ok a => simp [bind, Except.bind]

@[simp]
theorem pure_eq_ok {a b : α} : (pure a : Result α) = .ok b ↔ a = b := by
  simp [pure, Except.pure]

/-- If every step has a result, so have all of them in order. -/
theorem mapM_eq_ok {f : α → Result β} {g : α → β} {items : List α}
    (each : ∀ item ∈ items, f item = .ok (g item)) : items.mapM f = .ok (items.map g) := by
  induction items with
  | nil => rfl
  | cons item rest ih =>
      rw [List.mapM_cons, each item List.mem_cons_self,
        ih fun other mem => each other (List.mem_cons_of_mem item mem)]
      rfl

/-- If a step fails and no step fails otherwise, a list of steps fails in this way. -/
theorem mapM_eq_error {f : α → Result β} {failure : Error} {items : List α} {item : α}
    (alike : ∀ item ∈ items, ∀ e, f item = .error e → e = failure) (mem : item ∈ items)
    (fails : f item = .error failure) : items.mapM f = .error failure := by
  induction items with
  | nil => cases mem
  | cons first rest ih =>
      rw [List.mapM_cons]
      cases made : f first with
      | error e =>
          rw [alike first List.mem_cons_self e made]
          rfl
      | ok value =>
          have inRest : item ∈ rest := by
            rcases List.mem_cons.mp mem with rfl | inRest
            · rw [fails] at made
              cases made
            · exact inRest
          rw [ih (fun other mem => alike other (List.mem_cons_of_mem first mem)) inRest]
          rfl

/-- Every result of a list of steps is the result of a step. -/
theorem exists_mem_of_mapM_eq_ok {f : α → Result β} {items : List α} {results : List β}
    (ok : items.mapM f = .ok results) {result : β} (mem : result ∈ results) :
    ∃ item ∈ items, f item = .ok result := by
  induction items generalizing results with
  | nil =>
      rw [List.mapM_nil, pure_eq_ok] at ok
      rw [← ok] at mem
      cases mem
  | cons item rest ih =>
      rw [List.mapM_cons] at ok
      obtain ⟨first, firstOk, restOk⟩ := bind_eq_ok.1 ok
      obtain ⟨others, othersOk, whole⟩ := bind_eq_ok.1 restOk
      rw [pure_eq_ok] at whole
      rw [← whole] at mem
      rcases List.mem_cons.mp mem with same | inOthers
      · rw [same]
        exact ⟨item, List.mem_cons_self, firstOk⟩
      · obtain ⟨other, inRest, otherOk⟩ := ih othersOk inOthers
        exact ⟨other, List.mem_cons_of_mem item inRest, otherOk⟩

/-! ## Success -/

/-- There is a result. -/
def Succeeds (result : Result α) : Prop :=
  ∃ value, result = .ok value

@[simp]
theorem succeeds_ok (value : α) : Succeeds (.ok value) :=
  ⟨value, rfl⟩

@[simp]
theorem succeeds_pure (value : α) : Succeeds (pure value) :=
  ⟨value, rfl⟩

@[simp]
theorem not_succeeds_error (failure : Error) : ¬ Succeeds (.error failure : Result α) := by
  rintro ⟨value, same⟩
  cases same

/-- Two steps succeed if the first does, and if the second does whatever the first gives. -/
theorem succeeds_bind {x : Result α} {f : α → Result β} {next : Prop}
    (same : ∀ a, x = .ok a → (Succeeds (f a) ↔ next)) :
    Succeeds (x >>= f) ↔ Succeeds x ∧ next := by
  constructor
  · rintro ⟨b, ok⟩
    obtain ⟨a, first, second⟩ := bind_eq_ok.mp ok
    exact ⟨⟨a, first⟩, (same a first).mp ⟨b, second⟩⟩
  · rintro ⟨⟨a, first⟩, holds⟩
    obtain ⟨b, second⟩ := (same a first).mpr holds
    exact ⟨b, bind_eq_ok.mpr ⟨a, first, second⟩⟩

theorem succeeds_bind_pure {x : Result α} {f : α → β} :
    Succeeds (x >>= fun a => pure (f a)) ↔ Succeeds x := by
  rw [succeeds_bind fun a _ => iff_true_intro (succeeds_pure (f a)), and_true]

theorem succeeds_mapM {f : α → Result β} {items : List α} :
    Succeeds (items.mapM f) ↔ ∀ item ∈ items, Succeeds (f item) := by
  induction items with
  | nil => exact iff_of_true (succeeds_ok []) nofun
  | cons item rest ih =>
      rw [List.mapM_cons, List.forall_mem_cons, ← ih]
      exact succeeds_bind fun first _ => succeeds_bind_pure

/-- A list of steps has no results only if there are no steps. -/
theorem eq_nil_of_mapM_eq_ok {f : α → Result β} {items : List α} {results : List β}
    (ok : items.mapM f = .ok results) : results = [] ↔ items = [] := by
  cases items with
  | nil =>
      cases ok
      exact iff_of_true rfl rfl
  | cons item rest =>
      rw [List.mapM_cons] at ok
      obtain ⟨first, -, restOk⟩ := bind_eq_ok.mp ok
      obtain ⟨others, -, whole⟩ := bind_eq_ok.mp restOk
      cases whole
      exact iff_of_false (List.cons_ne_nil _ _) (List.cons_ne_nil _ _)

end Polyquery.Result
