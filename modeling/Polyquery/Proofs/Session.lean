import Polyquery.Session

/-!
# Runs of sessions

A session runs step by step.  A step that fails ends the run, in the state that
the step leaves.
-/

namespace Polyquery

section

variable {m : Type → Type} [Monad m] [LawfulMonad m] {α β γ : Type}

/-- Actions that agree on the elements of a list agree on the list. -/
theorem mapM_congr_of_mem {f g : α → m β} {items : List α}
    (same : ∀ item ∈ items, f item = g item) : items.mapM f = items.mapM g := by
  induction items with
  | nil => simp
  | cons item rest ih =>
      rw [List.mapM_cons, List.mapM_cons, same item List.mem_cons_self,
        ih fun other mem => same other (List.mem_cons_of_mem _ mem)]

/-- What is made of each value can be made of all values at the end. -/
theorem mapM_map_eq_zipWith (f : α → m β) (g : α → β → γ) (items : List α) :
    items.mapM (fun item => g item <$> f item) = List.zipWith g items <$> items.mapM f := by
  induction items with
  | nil => simp
  | cons item rest ih => simp [List.mapM_cons, ih]

theorem mapM_map_eq_map (f : α → m β) (g : β → γ) (items : List α) :
    items.mapM (fun item => g <$> f item) = List.map g <$> items.mapM f := by
  induction items with
  | nil => simp
  | cons item rest ih => simp [List.mapM_cons, ih]

/-- Lists one after the other are as good as one list. -/
theorem mapM_flatten_map (f : β → m γ) (lists : α → List β) (items : List α) :
    (items.map lists).flatten.mapM f =
      List.flatten <$> items.mapM fun item => (lists item).mapM f := by
  induction items with
  | nil => simp
  | cons item rest ih => simp [List.mapM_append, ih]

end

namespace Session

variable {σ α β : Type}

@[simp]
theorem run_pure (value : α) (state : σ) : run (pure value) state = (.ok value, state) :=
  rfl

@[simp]
theorem run_throw (failure : Error) (state : σ) :
    run (throw failure : Session σ α) state = (.error failure, state) :=
  rfl

@[simp]
theorem run_ofResult (result : Result α) (state : σ) :
    run (ofResult result) state = (result, state) :=
  rfl

@[simp]
theorem ofResult_ok (value : α) : (ofResult (.ok value) : Session σ α) = pure value :=
  rfl

@[simp]
theorem run_get (state : σ) : run (get : Session σ σ) state = (.ok state, state) :=
  rfl

@[simp]
theorem run_set (next state : σ) : run (set next : Session σ PUnit) state = (.ok ⟨⟩, next) :=
  rfl

@[simp]
theorem run_modify (f : σ → σ) (state : σ) :
    run (modify f : Session σ PUnit) state = (.ok ⟨⟩, f state) :=
  rfl

@[simp]
theorem run_attempt (action : Session σ α) (state : σ) :
    run action.attempt state = (.ok (run action state).1, (run action state).2) :=
  rfl

theorem run_bind (action : Session σ α) (next : α → Session σ β) (state : σ) :
    run (action >>= next) state =
      match run action state with
      | (.ok value, after) => run (next value) after
      | (.error failure, after) => (.error failure, after) := by
  change run (ExceptT.bind action next) state = _
  simp only [run, ExceptT.bind, ExceptT.run, ExceptT.mk, StateT.run_bind]
  rcases StateT.run action state with ⟨_ | _, _⟩ <;> rfl

theorem run_map (f : α → β) (action : Session σ α) (state : σ) :
    run (f <$> action) state = ((run action state).1.map f, (run action state).2) := by
  rw [map_eq_pure_bind, run_bind]
  rcases run action state with ⟨_ | _, _⟩ <;> rfl

/-- What is made of the value of an action does not fail. -/
theorem run_map_eq_error {f : α → β} {action : Session σ α} {state : σ} {failure : Error} :
    (run (f <$> action) state).1 = .error failure ↔ (run action state).1 = .error failure := by
  rw [run_map]
  cases (run action state).1 <;> simp [Except.map]

/-- What follows an action does not change the state. -/
theorem state_bind (action : Session σ α) (next : α → Session σ β) (state : σ)
    (still : ∀ value after, (run (next value) after).2 = after) :
    (run (action >>= next) state).2 = (run action state).2 := by
  rw [run_bind]
  rcases run action state with ⟨_ | value, after⟩
  · rfl
  · exact still value after

theorem run_bind_eq_ok {action : Session σ α} {next : α → Session σ β} {value : β}
    {state after : σ} :
    run (action >>= next) state = (.ok value, after) ↔ ∃ first middle,
      run action state = (.ok first, middle) ∧ run (next first) middle = (.ok value, after) := by
  rw [run_bind]
  rcases run action state with ⟨failure | first, middle⟩
  · simp
  · constructor
    · intro ran
      exact ⟨first, middle, rfl, ran⟩
    · rintro ⟨_, _, same, ran⟩
      cases same
      exact ran

/-- A list of actions succeeds if the first and the others do, one after the other. -/
theorem run_mapM_cons_eq_ok {f : α → Session σ β} {item : α} {rest : List α} {values : List β}
    {state after : σ} :
    run ((item :: rest).mapM f) state = (.ok values, after) ↔ ∃ first others middle,
      run (f item) state = (.ok first, middle) ∧
        run (rest.mapM f) middle = (.ok others, after) ∧ values = first :: others := by
  rw [List.mapM_cons, run_bind_eq_ok]
  constructor
  · rintro ⟨first, middle, ran, ranRest⟩
    obtain ⟨others, last, ranOthers, ended⟩ := run_bind_eq_ok.mp ranRest
    cases ended
    exact ⟨first, others, middle, ran, ranOthers, rfl⟩
  · rintro ⟨first, others, middle, ran, ranOthers, rfl⟩
    exact ⟨first, middle, ran, run_bind_eq_ok.mpr ⟨others, after, ranOthers, rfl⟩⟩

/-! ## Actions that differ in their values -/

/-- Two actions lead from a state to the same state, and fail alike if they fail. -/
structure Alike (first : Session σ α) (second : Session σ β) (state : σ) : Prop where
  state_eq : (run first state).2 = (run second state).2
  failure_eq : (run first state).1.map (fun _ => ()) = (run second state).1.map fun _ => ()

theorem result_map_forget (f : α → β) (result : Result α) :
    (result.map f).map (fun _ => ()) = result.map fun _ => () := by
  cases result <;> rfl

theorem alike_refl (action : Session σ α) (state : σ) : Alike action action state :=
  ⟨rfl, rfl⟩

theorem Alike.symm {first : Session σ α} {second : Session σ β} {state : σ}
    (alike : Alike first second state) : Alike second first state :=
  ⟨alike.state_eq.symm, alike.failure_eq.symm⟩

theorem Alike.map {γ δ : Type} {first : Session σ α} {second : Session σ β} {state : σ}
    (alike : Alike first second state) (f : α → γ) (g : β → δ) :
    Alike (f <$> first) (g <$> second) state := by
  obtain ⟨state_eq, failure_eq⟩ := alike
  constructor
  · rw [run_map, run_map]
    exact state_eq
  · rw [run_map, run_map, result_map_forget, result_map_forget]
    exact failure_eq

theorem Alike.bind {γ : Type} {action : Session σ α} {first : α → Session σ β}
    {second : α → Session σ γ} {state : σ}
    (later : ∀ value after, run action state = (.ok value, after) →
      Alike (first value) (second value) after) :
    Alike (action >>= first) (action >>= second) state := by
  rcases ran : run action state with ⟨failure | value, after⟩
  · constructor <;> simp [run_bind, ran, Except.map]
  · obtain ⟨state_eq, failure_eq⟩ := later value after ran
    constructor
    · rw [run_bind, run_bind, ran]
      exact state_eq
    · rw [run_bind, run_bind, ran]
      exact failure_eq

/-! ## What runs keep to -/

/-- Every run of an action leads from a state to a related one. -/
def Within (relation : σ → σ → Prop) (action : Session σ α) : Prop :=
  ∀ state, relation state (run action state).2

section

variable {relation : σ → σ → Prop} {action : Session σ α}

theorem Within.of_run (within : action.Within relation) {result : Result α} {state after : σ}
    (ran : run action state = (result, after)) : relation state after := by
  have related := within state
  rw [ran] at related
  exact related

theorem within_ofResult (refl : ∀ state, relation state state) (result : Result α) :
    (ofResult result).Within relation :=
  refl

theorem within_pure (refl : ∀ state, relation state state) (value : α) :
    (pure value : Session σ α).Within relation :=
  refl

theorem Within.bind {next : α → Session σ β}
    (trans : ∀ first second third, relation first second → relation second third →
      relation first third)
    (within : action.Within relation) (later : ∀ value, (next value).Within relation) :
    (action >>= next).Within relation := by
  intro state
  have first := within state
  rw [run_bind]
  rcases ran : run action state with ⟨_ | value, after⟩
  · rw [ran] at first
    exact first
  · rw [ran] at first
    exact trans _ _ _ first (later value after)

theorem Within.map (within : action.Within relation) {f : α → β} :
    (f <$> action).Within relation := by
  intro state
  rw [run_map]
  exact within state

theorem within_mapM {f : α → Session σ β} (refl : ∀ state, relation state state)
    (trans : ∀ first second third, relation first second → relation second third →
      relation first third)
    (each : ∀ item, (f item).Within relation) (items : List α) :
    (items.mapM f).Within relation := by
  induction items with
  | nil =>
      rw [List.mapM_nil]
      exact within_pure refl []
  | cons item rest ih =>
      rw [List.mapM_cons]
      apply (each item).bind trans
      intro first
      apply ih.bind trans
      intro others
      exact within_pure refl (first :: others)

end

/-! ## How runs fail -/

/-- Every failure of an action is of some kind. -/
def FailsOnly (kind : Error → Prop) (action : Session σ α) : Prop :=
  ∀ ⦃state after failure⦄, run action state = (.error failure, after) → kind failure

section

variable {kind : Error → Prop} {action : Session σ α}

theorem failsOnly_pure (value : α) : (pure value : Session σ α).FailsOnly kind := by
  intro state after failure ran
  cases ran

theorem failsOnly_throw {failure : Error} (of : kind failure) :
    (throw failure : Session σ α).FailsOnly kind := by
  intro state after other ran
  cases ran
  exact of

theorem FailsOnly.bind {next : α → Session σ β} (first : action.FailsOnly kind)
    (later : ∀ value, (next value).FailsOnly kind) : (action >>= next).FailsOnly kind := by
  intro state last failure ran
  rw [run_bind] at ran
  rcases acted : run action state with ⟨other | value, middle⟩
  · rw [acted] at ran
    cases ran
    exact first acted
  · rw [acted] at ran
    exact later value ran

theorem FailsOnly.map (fails : action.FailsOnly kind) (f : α → β) :
    (f <$> action).FailsOnly kind := by
  rw [map_eq_pure_bind]
  exact fails.bind fun value => failsOnly_pure (f value)

theorem failsOnly_mapM {f : α → Session σ β} {items : List α}
    (each : ∀ item ∈ items, (f item).FailsOnly kind) : (items.mapM f).FailsOnly kind := by
  induction items with
  | nil =>
      rw [List.mapM_nil]
      exact failsOnly_pure []
  | cons item rest ih =>
      obtain ⟨ofItem, ofRest⟩ := List.forall_mem_cons.mp each
      rw [List.mapM_cons]
      apply ofItem.bind
      intro first
      apply (ih ofRest).bind
      intro others
      exact failsOnly_pure (first :: others)

end

end Session

end Polyquery
