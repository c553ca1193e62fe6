/-!
# Named entries in order

Rows, JSON objects and schemas are collections of named entries.  They are kept
as lists that are strictly increasing by name, in the order of code points, so
that two collections with the same entries are equal and print alike.
-/

namespace Polyquery

/-- Entries by name.  Collections built by `Fields.set` and `Fields.ofList` are
strictly increasing by name. -/
abbrev Fields (α : Type) := List (String × α)

namespace Fields

variable {α β : Type}

/-- The names are strictly increasing. -/
def Sorted (fields : Fields α) : Prop :=
  fields.Pairwise fun a b => a.1 < b.1

/-- The entry with a name. -/
def find? (name : String) : Fields α → Option α
  | [] => none
  | (key, value) :: rest => if key = name then some value else find? name rest

/-- Whether there is an entry with a name. -/
def has (name : String) (fields : Fields α) : Bool :=
  (find? name fields).isSome

/-- Put an entry at its place; an entry of the same name is replaced. -/
def set (name : String) (value : α) : Fields α → Fields α
  | [] => [(name, value)]
  | (key, old) :: rest =>
    if name < key then (name, value) :: (key, old) :: rest
    else if name = key then (name, value) :: rest
    else (key, old) :: set name value rest

/-- Change the entry with a name, starting from a default if there is none. -/
def alter (name : String) (default : α) (change : α → α) (fields : Fields α) : Fields α :=
  set name (change ((find? name fields).getD default)) fields

/-- The collection of a list of entries.  Of several entries with one name the
last counts. -/
def ofList (entries : List (String × α)) : Fields α :=
  entries.foldl (fun fields entry => set entry.1 entry.2 fields) []

/-- The names in order. -/
def names (fields : Fields α) : List String :=
  fields.map Prod.fst

/-- Apply a function to every entry. -/
def mapValues (f : α → β) (fields : Fields α) : Fields β :=
  fields.map fun entry => (entry.1, f entry.2)

@[simp] theorem find?_nil (name : String) : find? name ([] : Fields α) = none := rfl

theorem find?_set_self (name : String) (value : α) (fields : Fields α) :
    find? name (set name value fields) = some value := by
  induction fields with
  | nil => simp [set, find?]
  | cons entry rest ih =>
      obtain ⟨key, old⟩ := entry
      simp only [set]
      split
      · simp [find?]
      · split
        · simp [find?]
        · rename_i different
          simp [find?, Ne.symm different, ih]

theorem find?_set_of_ne {name other : String} (value : α) (fields : Fields α)
    (different : other ≠ name) :
    find? other (set name value fields) = find? other fields := by
  induction fields with
  | nil => simp [set, find?, Ne.symm different]
  | cons entry rest ih =>
      obtain ⟨key, old⟩ := entry
      simp only [set]
      split
      · simp [find?, Ne.symm different]
      · split
        · rename_i same
          subst same
          simp [find?, Ne.symm different]
        · simp only [find?, ih]

/-- Entries whose values depend on their names alone. -/
theorem find?_ofList_map (values : String → α) (names : List String) (name : String) :
    find? name (ofList (names.map fun name => (name, values name))) =
      if name ∈ names then some (values name) else none := by
  have collects (names : List String) (fields : Fields α) :
      find? name ((names.map fun name => (name, values name)).foldl
        (fun fields entry => set entry.1 entry.2 fields) fields) =
        if name ∈ names then some (values name) else find? name fields := by
    induction names generalizing fields with
    | nil => rfl
    | cons first rest ih =>
        rw [List.map_cons, List.foldl_cons, ih]
        by_cases later : name ∈ rest
        · rw [if_pos later, if_pos (List.mem_cons_of_mem _ later)]
        · rw [if_neg later]
          by_cases same : name = first
          · rw [same, if_pos List.mem_cons_self, find?_set_self]
          · rw [find?_set_of_ne _ _ same, if_neg (by simp [same, later])]
  exact collects names []

theorem mem_set {name : String} {value : α} {fields : Fields α} {entry : String × α}
    (mem : entry ∈ set name value fields) : entry = (name, value) ∨ entry ∈ fields := by
  induction fields with
  | nil => simpa [set] using mem
  | cons first rest ih =>
      obtain ⟨key, old⟩ := first
      simp only [set] at mem
      split at mem
      · simpa using mem
      · split at mem
        · rcases List.mem_cons.1 mem with same | inRest
          · exact .inl same
          · exact .inr (List.mem_cons_of_mem _ inRest)
        · rcases List.mem_cons.1 mem with same | inRest
          · exact .inr (by simp [same])
          · exact (ih inRest).imp_right (List.mem_cons_of_mem _)

theorem sorted_set (name : String) (value : α) {fields : Fields α} (sorted : Sorted fields) :
    Sorted (set name value fields) := by
  induction fields with
  | nil => simp [set, Sorted]
  | cons first rest ih =>
      obtain ⟨key, old⟩ := first
      obtain ⟨above, tail⟩ := List.pairwise_cons.1 sorted
      simp only [set]
      split
      · rename_i below
        refine List.pairwise_cons.2 ⟨fun entry mem => ?_, sorted⟩
        rcases List.mem_cons.1 mem with same | inRest
        · simpa [same] using below
        · exact String.lt_trans below (above entry inRest)
      · rename_i notBelow
        split
        · rename_i same
          exact List.pairwise_cons.2 ⟨fun entry mem => same ▸ above entry mem, tail⟩
        · rename_i different
          refine List.pairwise_cons.2 ⟨fun entry mem => ?_, ih tail⟩
          rcases mem_set mem with same | inRest
          · simp only [same]
            exact Decidable.byContradiction fun notLess =>
              different (String.le_antisymm (String.not_lt.1 notLess) (String.not_lt.1 notBelow))
          · exact above entry inRest

theorem sorted_ofList (entries : List (String × α)) : Sorted (ofList entries) := by
  have keeps (entries : List (String × α)) (fields : Fields α) (sorted : Sorted fields) :
      Sorted (entries.foldl (fun fields entry => set entry.1 entry.2 fields) fields) := by
    induction entries generalizing fields with
    | nil => exact sorted
    | cons entry rest ih => exact ih _ (sorted_set entry.1 entry.2 sorted)
  exact keeps entries [] List.Pairwise.nil

end Fields

end Polyquery
