import Mathlib.Data.List.Forall2
import Mathlib.Data.List.Pairwise
import Polyquery.Proofs.Database.Keys

/-!
# Keys of other runs

The rows that lack the key take the keys in the list in turn, without a look at the run
that a key was returned for.  So a run that gets fewer keys than it has rows goes on with
the keys of the next runs, and one that gets more leaves keys for their rows.  Every row
has a key of its own run exactly if the numbers of keys and rows agree, up to a last run
after which no key or no row is left.
-/

namespace Polyquery

namespace Table.assignKeys

variable {key : String} {rows more : List Row} {ids : List Json}

/-- Rows that lack the key take keys as long as there are any. -/
theorem fill_append (lack : ∀ row ∈ rows, Fields.has key row = false) :
    fill key (rows ++ more) ids =
      (List.zipWith (fun row id => Fields.set key id row) rows ids ++ rows.drop ids.length) ++
        fill key more (ids.drop rows.length) := by
  induction rows generalizing ids with
  | nil => simp
  | cons row rest ih =>
      obtain ⟨lacks, restLack⟩ := List.forall_mem_cons.mp lack
      cases ids with
      | nil => simp [fill_nil]
      | cons id ids =>
          rw [List.cons_append, fill, if_neg (by simp [lacks]), ih restLack]
          simp

end Table.assignKeys

namespace UpsertRun

variable {key : String} {entries : List (UpsertRun × List Json)} {run : UpsertRun}
  {ids left : List Json} {rows filled : List Row} {row : Row}

/-- A row is as it was, or it got one of some keys. -/
def KeyedFrom (key : String) (ids : List Json) (row filled : Row) : Prop :=
  filled = row ∨ ∃ id ∈ ids, Fields.has key row = false ∧ filled = Fields.set key id row

/-- The rows of some runs, each as it was or with a key that was returned for its own
run. -/
inductive Owned (key : String) : List (UpsertRun × List Json) → List Row → Prop
  | nil : Owned key [] []
  | cons {run : UpsertRun} {ids : List Json} {entries : List (UpsertRun × List Json)}
      {filled rows : List Row} (own : List.Forall₂ (KeyedFrom key ids) run.rows filled)
      (others : Owned key entries rows) : Owned key ((run, ids) :: entries) (filled ++ rows)

/-- The keys that were returned for the runs whose rows lack the key, one after the other. -/
def pending (key : String) (entries : List (UpsertRun × List Json)) : List Json :=
  entries.flatMap fun entry => if key ∈ entry.1.columns then [] else entry.2

/-- The rows of the runs take keys from a list in turn, and every run takes its own. -/
def TakesOwn (key : String) : List (UpsertRun × List Json) → List Json → Prop
  | [], _ => True
  | (run, ids) :: entries, left =>
    if key ∈ run.columns then TakesOwn key entries left
    else (∀ id ∈ left.take run.rows.length, id ∈ ids) ∧
      TakesOwn key entries (left.drop run.rows.length)

/-! ## What the rows take -/

theorem owned_cons_iff (same : filled.length = run.rows.length) :
    Owned key ((run, ids) :: entries) (filled ++ rows) ↔
      List.Forall₂ (KeyedFrom key ids) run.rows filled ∧ Owned key entries rows := by
  constructor
  · intro owned
    generalize whole : filled ++ rows = all at owned
    cases owned with
    | cons own others =>
        obtain ⟨rfl, rfl⟩ := List.append_inj whole (same.trans own.length_eq)
        exact ⟨own, others⟩
  · rintro ⟨own, others⟩
    exact .cons own others

theorem set_injective {id other : Json} (same : Fields.set key id row = Fields.set key other row) :
    id = other := by
  have found := congrArg (Fields.find? key) same
  rw [Fields.find?_set_self, Fields.find?_set_self] at found
  exact Option.some.inj found

theorem set_ne_self (lacks : Fields.has key row = false) (id : Json) :
    Fields.set key id row ≠ row := by
  intro same
  have found := congrArg (Fields.has key) same
  rw [Fields.has, Fields.find?_set_self, lacks] at found
  cases found

/-- A row that lacks the key gets one of some keys exactly if the key that it gets is one
of them. -/
theorem keyedFrom_set_iff (lacks : Fields.has key row = false) (id : Json) :
    KeyedFrom key ids row (Fields.set key id row) ↔ id ∈ ids := by
  constructor
  · rintro (same | ⟨other, mem, -, same⟩)
    · exact absurd same (set_ne_self lacks id)
    · rwa [set_injective same]
  · intro mem
    exact .inr ⟨id, mem, lacks, rfl⟩

theorem forall₂_keyedFrom_refl (ids : List Json) (rows : List Row) :
    List.Forall₂ (KeyedFrom key ids) rows rows :=
  List.forall₂_same.mpr fun _ _ => .inl rfl

theorem forall₂_keyedFrom_iff (lack : ∀ row ∈ rows, Fields.has key row = false) :
    List.Forall₂ (KeyedFrom key ids) rows
        (List.zipWith (fun row id => Fields.set key id row) rows left ++ rows.drop left.length) ↔
      ∀ id ∈ left.take rows.length, id ∈ ids := by
  induction rows generalizing left with
  | nil => simp
  | cons row rest ih =>
      obtain ⟨lacks, restLack⟩ := List.forall_mem_cons.mp lack
      cases left with
      | nil => simpa using forall₂_keyedFrom_refl ids (row :: rest)
      | cons id left => simp [keyedFrom_set_iff lacks, ih restLack]

/-- Every row has a key of its own run exactly if every run takes its own keys. -/
theorem owned_fill_iff
    (alike : ∀ entry ∈ entries, ∀ row ∈ entry.1.rows,
      Fields.has key row = true ↔ key ∈ entry.1.columns) (left : List Json) :
    Owned key entries (Table.assignKeys.fill key (entries.flatMap fun entry => entry.1.rows) left) ↔
      TakesOwn key entries left := by
  induction entries generalizing left with
  | nil => exact iff_of_true .nil trivial
  | cons entry rest ih =>
      obtain ⟨run, ids⟩ := entry
      obtain ⟨ofRun, ofRest⟩ := List.forall_mem_cons.mp alike
      rw [List.flatMap_cons, TakesOwn]
      by_cases carries : key ∈ run.columns
      · rw [if_pos carries, Table.assignKeys.fill_append_of_has
          fun row mem => (ofRun row mem).mpr carries, owned_cons_iff rfl, ih ofRest]
        exact and_iff_right (forall₂_keyedFrom_refl ids run.rows)
      · have lack : ∀ row ∈ run.rows, Fields.has key row = false := by
          intro row mem
          rw [Bool.eq_false_iff]
          exact fun has => carries ((ofRun row mem).mp has)
        rw [if_neg carries, Table.assignKeys.fill_append lack, owned_cons_iff (by simp; omega),
          forall₂_keyedFrom_iff lack, ih ofRest]

/-! ## Numbers of keys and rows -/

/-- The numbers of rows and keys of runs, in order: they agree, up to a last run after
which no row is left for more keys, or no key for more rows. -/
def Aligned : List (Nat × Nat) → Prop
  | [] => True
  | (rows, keys) :: later =>
    keys = rows ∧ Aligned later ∨ rows < keys ∧ later = [] ∨
      keys < rows ∧ ∀ entry ∈ later, entry.2 = 0

/-- The numbers of rows and keys of the runs whose rows lack the key. -/
def numbers (key : String) (entries : List (UpsertRun × Nat)) : List (Nat × Nat) :=
  (entries.filter fun entry => key ∉ entry.1.columns).map fun entry =>
    (entry.1.rows.length, entry.2)

/-- The runs with the numbers of keys that were returned for them. -/
def counted (entries : List (UpsertRun × List Json)) : List (UpsertRun × Nat) :=
  entries.map fun entry => (entry.1, entry.2.length)

theorem numbers_carrying (carries : key ∈ run.columns) :
    numbers key (counted ((run, ids) :: entries)) = numbers key (counted entries) := by
  simp [numbers, counted, carries]

theorem numbers_lacking (lacks : key ∉ run.columns) :
    numbers key (counted ((run, ids) :: entries)) =
      (run.rows.length, ids.length) :: numbers key (counted entries) := by
  simp [numbers, counted, lacks]

theorem pending_carrying (carries : key ∈ run.columns) :
    pending key ((run, ids) :: entries) = pending key entries := by
  simp [pending, carries]

theorem pending_lacking (lacks : key ∉ run.columns) :
    pending key ((run, ids) :: entries) = ids ++ pending key entries := by
  simp [pending, lacks]

theorem pending_eq_nil_iff :
    pending key entries = [] ↔ ∀ entry ∈ numbers key (counted entries), entry.2 = 0 := by
  induction entries with
  | nil => simp [pending, numbers, counted]
  | cons entry rest ih =>
      obtain ⟨run, ids⟩ := entry
      by_cases carries : key ∈ run.columns
      · rw [pending_carrying carries, numbers_carrying carries, ih]
      · rw [pending_lacking carries, numbers_lacking carries, List.append_eq_nil_iff, ih,
          List.forall_mem_cons, List.length_eq_zero_iff]

/-- Where nothing is left, no key of another run is taken. -/
theorem takesOwn_nil (entries : List (UpsertRun × List Json)) : TakesOwn key entries [] := by
  induction entries with
  | nil => trivial
  | cons entry rest ih => simp [TakesOwn, ih]

/-- Where all rows carry the key, no key is taken. -/
theorem takesOwn_of_numbers_eq_nil (none : numbers key (counted entries) = [])
    (left : List Json) : TakesOwn key entries left := by
  induction entries with
  | nil => trivial
  | cons entry rest ih =>
      obtain ⟨run, ids⟩ := entry
      by_cases carries : key ∈ run.columns
      · rw [numbers_carrying carries] at none
        rw [TakesOwn, if_pos carries]
        exact ih none
      · rw [numbers_lacking carries] at none
        cases none

theorem takesOwn_of_aligned (aligned : Aligned (numbers key (counted entries))) :
    TakesOwn key entries (pending key entries) := by
  induction entries with
  | nil => trivial
  | cons entry rest ih =>
      obtain ⟨run, ids⟩ := entry
      by_cases carries : key ∈ run.columns
      · rw [numbers_carrying carries] at aligned
        rw [TakesOwn, if_pos carries, pending_carrying carries]
        exact ih aligned
      · rw [numbers_lacking carries, Aligned] at aligned
        rw [TakesOwn, if_neg carries, pending_lacking carries]
        rcases aligned with ⟨equal, aligned⟩ | ⟨more, none⟩ | ⟨fewer, none⟩
        · rw [← equal, List.take_left, List.drop_left]
          exact ⟨fun _ mem => mem, ih aligned⟩
        · rw [List.take_append_of_le_length more.le]
          exact ⟨fun _ mem => List.mem_of_mem_take mem, takesOwn_of_numbers_eq_nil none _⟩
        · rw [pending_eq_nil_iff.mpr none, List.append_nil, List.drop_of_length_le fewer.le]
          exact ⟨fun _ mem => List.mem_of_mem_take mem, takesOwn_nil _⟩

/-- The first key that is left is taken by the next rows that lack the key. -/
theorem exists_mem_of_takesOwn_cons {id : Json} (nonempty : ∀ entry ∈ entries, entry.1.rows ≠ [])
    (some : numbers key (counted entries) ≠ []) (takes : TakesOwn key entries (id :: left)) :
    ∃ entry ∈ entries, id ∈ entry.2 := by
  induction entries with
  | nil => exact absurd rfl some
  | cons entry rest ih =>
      obtain ⟨run, ids⟩ := entry
      obtain ⟨ofRun, ofRest⟩ := List.forall_mem_cons.mp nonempty
      by_cases carries : key ∈ run.columns
      · rw [numbers_carrying carries] at some
        rw [TakesOwn, if_pos carries] at takes
        obtain ⟨other, mem, found⟩ := ih ofRest some takes
        exact ⟨other, List.mem_cons_of_mem _ mem, found⟩
      · rw [TakesOwn, if_neg carries] at takes
        refine ⟨(run, ids), List.mem_cons_self, takes.1 id ?_⟩
        obtain ⟨rows, count⟩ := Nat.exists_eq_succ_of_ne_zero (mt List.length_eq_zero_iff.mp ofRun)
        rw [count]
        exact List.mem_cons_self

theorem exists_mem_of_mem_pending {id : Json} (mem : id ∈ pending key entries) :
    ∃ entry ∈ entries, id ∈ entry.2 := by
  obtain ⟨entry, inEntries, found⟩ := List.mem_flatMap.mp mem
  split at found
  · cases found
  · exact ⟨entry, inEntries, found⟩

/-- If no key was returned for two runs, every run takes its own keys only if the numbers
agree. -/
theorem aligned_of_takesOwn (nonempty : ∀ entry ∈ entries, entry.1.rows ≠ [])
    (apart : entries.Pairwise fun first second => ∀ id ∈ second.2, id ∉ first.2)
    (takes : TakesOwn key entries (pending key entries)) :
    Aligned (numbers key (counted entries)) := by
  induction entries with
  | nil => trivial
  | cons entry rest ih =>
      obtain ⟨run, ids⟩ := entry
      obtain ⟨ofRun, ofRest⟩ := List.forall_mem_cons.mp nonempty
      obtain ⟨others, restApart⟩ := List.pairwise_cons.mp apart
      by_cases carries : key ∈ run.columns
      · rw [TakesOwn, if_pos carries, pending_carrying carries] at takes
        rw [numbers_carrying carries]
        exact ih ofRest restApart takes
      · rw [TakesOwn, if_neg carries, pending_lacking carries] at takes
        obtain ⟨own, later⟩ := takes
        rw [numbers_lacking carries, Aligned]
        rcases Nat.lt_trichotomy ids.length run.rows.length with fewer | equal | more
        · refine .inr (.inr ⟨fewer, pending_eq_nil_iff.mp ?_⟩)
          -- a key of a later run would be the next one that this run takes
          cases next : pending key rest with
          | nil => rfl
          | cons id left =>
              have taken : id ∈ (ids ++ pending key rest).take run.rows.length := by
                obtain ⟨gap, count⟩ := Nat.exists_eq_add_of_lt fewer
                rw [next, count, Nat.add_assoc, List.take_length_add_append]
                exact List.mem_append_right _ List.mem_cons_self
              obtain ⟨other, mem, found⟩ :=
                @exists_mem_of_mem_pending key rest id (by rw [next]; exact List.mem_cons_self)
              exact absurd (own id taken) (others other mem id found)
        · rw [← equal, List.drop_left] at later
          exact .inl ⟨equal, ih ofRest restApart later⟩
        · refine .inr (.inl ⟨more, ?_⟩)
          by_contra some
          rw [List.drop_append_of_le_length more.le] at later
          obtain ⟨id, left, dropped⟩ :=
            List.exists_cons_of_ne_nil (mt List.drop_eq_nil_iff.mp (Nat.not_le.mpr more))
          rw [dropped, List.cons_append] at later
          obtain ⟨other, mem, found⟩ := exists_mem_of_takesOwn_cons ofRest some later
          have left : id ∈ ids := List.mem_of_mem_drop (by rw [dropped]; exact List.mem_cons_self)
          exact others other mem id found left

end UpsertRun

end Polyquery
