import Polyquery.Proofs.Document.Generation
import Polyquery.Proofs.Sql.Truth

/-!
# Forms of filters

An object can carry the names of several forms.  Only one of them is read, and what the others
ask for is lost.  Nothing is lost exactly if every object carries the names of one form, and
what has been read is kept by the query: its comparisons are those of the filter, in order.
-/

namespace Polyquery

open Json (Source)

namespace Filter

/-! ## Forms -/

/-- The forms that a filter can have. -/
inductive Form where
  | all
  | any
  | not
  | compare
deriving DecidableEq

/-- The names of the fields that make up a form. -/
def Form.names : Form → List String
  | all => ["all"]
  | any => ["any"]
  | not => ["not"]
  | compare => ["column", "op"]

/-- The forms of which an object carries the names. -/
def formsOf (fields : List (Option String × Source)) : List Form :=
  [Form.all, .any, .not, .compare].filter fun form =>
    form.names.all fun name => fields.any fun field => field.1 = some name

/-- The form that a field has by its name alone. -/
def connective? : Option String → Option Form
  | some name => [("all", Form.all), ("any", Form.any), ("not", Form.not)].lookup name
  | none => none

/-- The filters that are written in a field. -/
def inside (field : Option String × Source) : List Source :=
  match connective? field.1, field.2 with
  | some .not, value => [value]
  | some _, .arr items => items
  | _, _ => []

/-- What stands at some nesting level of a written filter. -/
inductive Level : Source → Source → Prop
  | outermost (source : Source) : Level source source
  | deeper {fields : List (Option String × Source)} {field : Option String × Source}
      {inner innermost : Source} (mem : field ∈ fields) (under : inner ∈ inside field)
      (level : Level inner innermost) : Level (.obj fields) innermost

/-- At every nesting level there is an object that carries the names of exactly one form. -/
def OneForm (source : Source) : Prop :=
  ∀ inner, Level source inner → ∃ fields form, inner = .obj fields ∧ formsOf fields = [form]

variable {filter : Filter} {source : Source} {field : Option String × Source}
  {fields before after : List (Option String × Source)}

theorem oneForm_obj_iff :
    OneForm (.obj fields) ↔
      (∃ form, formsOf fields = [form]) ∧
        ∀ field ∈ fields, ∀ inner ∈ inside field, OneForm inner := by
  constructor
  · intro one
    refine ⟨?_, fun field mem inner under innermost level =>
      one innermost (.deeper mem under level)⟩
    obtain ⟨_, form, same, carried⟩ := one _ (.outermost _)
    cases same
    exact ⟨form, carried⟩
  · rintro ⟨⟨form, carried⟩, below⟩ inner level
    cases level with
    | outermost => exact ⟨fields, form, rfl, carried⟩
    | deeper mem under level => exact below _ mem _ under inner level

theorem mem_formsOf {form : Form} :
    form ∈ formsOf fields ↔ ∀ name ∈ form.names, ∃ field ∈ fields, field.1 = some name := by
  cases form <;> simp [formsOf]

/-- One form is carried if it is and no other. -/
theorem formsOf_eq_singleton_iff {form : Form} :
    formsOf fields = [form] ↔ ∀ other, other ∈ formsOf fields ↔ other = form := by
  constructor
  · intro carried other
    rw [carried, List.mem_singleton]
  · intro only
    have distinct : (formsOf fields).Nodup := List.Nodup.filter _ (by decide)
    have same := (List.perm_ext_iff_of_nodup distinct (List.nodup_singleton form)).mpr fun other =>
      (only other).trans List.mem_singleton.symm
    exact same.eq_singleton

theorem connective?_eq_some_iff {key : Option String} {form : Form} :
    connective? key = some form ↔ form ≠ .compare ∧ ∃ name ∈ form.names, key = some name := by
  cases key with
  | none => simp [connective?]
  | some name =>
      simp only [connective?, List.lookup_cons, List.lookup_nil]
      cases form <;> grind [Form.names]

theorem mem_formsOf_of_connective? {form : Form} (mem : field ∈ fields)
    (connects : connective? field.1 = some form) : form ∈ formsOf fields := by
  obtain ⟨other, name, inNames, key⟩ := connective?_eq_some_iff.mp connects
  rw [mem_formsOf]
  cases form with
  | compare => exact absurd rfl other
  | all | any | not =>
      obtain rfl := List.mem_singleton.mp inNames
      exact fun name' mem' => ⟨field, mem, List.mem_singleton.mp mem' ▸ key⟩

theorem exists_connective?_of_mem_formsOf {form : Form} (carried : form ∈ formsOf fields)
    (other : form ≠ .compare) : ∃ field ∈ fields, connective? field.1 = some form := by
  rw [mem_formsOf] at carried
  cases form with
  | compare => exact absurd rfl other
  | all | any | not =>
      obtain ⟨field, mem, key⟩ := carried _ (List.mem_singleton_self _)
      exact ⟨field, mem, connective?_eq_some_iff.mpr ⟨other, _, List.mem_singleton_self _, key⟩⟩

/-! ## Constraints -/

/-- A comparison that a document asks for. -/
structure Condition where
  column : String
  comparison : Comparison
  value : Json

/-- What a document asks for with one form, and the condition if it is a comparison. -/
structure Constraint where
  form : Form
  condition? : Option Condition

/-- The form that has been read. -/
def form : Filter → Form
  | .all _ => .all
  | .any _ => .any
  | .not _ => .not
  | .compare _ _ _ => .compare

/-- The condition of a comparison. -/
def condition? : Filter → Option Condition
  | .compare column comparison value => some ⟨column, comparison, value⟩
  | _ => none

/-- The filters that a filter combines. -/
def parts : Filter → List Filter
  | .all filters => filters
  | .any filters => filters
  | .not filter => [filter]
  | .compare _ _ _ => []

mutual

/-- The constraints of a filter, each before those inside it. -/
def kept : Filter → List Constraint
  | .all filters => ⟨.all, none⟩ :: keptOf filters
  | .any filters => ⟨.any, none⟩ :: keptOf filters
  | .not filter => ⟨.not, none⟩ :: kept filter
  | .compare column comparison value => [⟨.compare, some ⟨column, comparison, value⟩⟩]

/-- The constraints of some filters. -/
def keptOf : List Filter → List Constraint
  | [] => []
  | filter :: rest => kept filter ++ keptOf rest

end

/-- The comparison that an object asks for, if it carries the names of one. -/
def ownConstraints (fields : List (Option String × Source)) : List Constraint :=
  if Form.compare ∈ formsOf fields then
    [⟨.compare, (comparison? (readings fields)).bind condition?⟩]
  else []

mutual

/-- The constraints that are written at all nesting levels of a filter. -/
def written : Source → List Constraint
  | .obj fields => ownConstraints fields ++ writtenFields fields
  | _ => []

/-- The constraints that are written in a list of filters. -/
def writtenList : Source → List Constraint
  | .arr items => writtenItems items
  | _ => []

def writtenItems : List Source → List Constraint
  | [] => []
  | item :: rest => written item ++ writtenItems rest

/-- The constraints that are written in the fields of an object that combine filters. -/
def writtenFields : List (Option String × Source) → List Constraint
  | [] => []
  | (key, value) :: rest =>
    (match connective? key with
      | none => []
      | some .not => ⟨.not, none⟩ :: written value
      | some form => ⟨form, none⟩ :: writtenList value) ++ writtenFields rest

end

theorem keptOf_eq_flatMap (filters : List Filter) : keptOf filters = filters.flatMap kept := by
  induction filters with
  | nil => rfl
  | cons filter rest ih => rw [keptOf, ih, List.flatMap_cons]

/-- A filter asks for its form and for what its parts ask. -/
theorem kept_eq (filter : Filter) :
    kept filter = ⟨filter.form, filter.condition?⟩ :: filter.parts.flatMap kept := by
  cases filter <;> simp [kept, keptOf_eq_flatMap, form, condition?, parts]

theorem writtenItems_eq_flatMap (items : List Source) :
    writtenItems items = items.flatMap written := by
  induction items with
  | nil => rfl
  | cons item rest ih => rw [writtenItems, ih, List.flatMap_cons]

/-- The constraints of one field. -/
def writtenField (field : Option String × Source) : List Constraint :=
  match connective? field.1 with
  | none => []
  | some form => ⟨form, none⟩ :: (inside field).flatMap written

theorem writtenFields_eq_flatMap (fields : List (Option String × Source)) :
    writtenFields fields = fields.flatMap writtenField := by
  induction fields with
  | nil => rfl
  | cons field rest ih =>
      obtain ⟨key, value⟩ := field
      rw [writtenFields, ih, List.flatMap_cons, writtenField]
      congr 1
      cases connects : connective? key with
      | none => rfl
      | some form =>
          cases form with
          | not => simp [inside, connects]
          | all | any | compare =>
              cases value <;> simp [inside, connects, writtenList, writtenItems_eq_flatMap]

theorem written_obj (fields : List (Option String × Source)) :
    written (.obj fields) = ownConstraints fields ++ fields.flatMap writtenField := by
  rw [written, writtenFields_eq_flatMap]

theorem flatMap_writtenField_eq_nil_iff :
    fields.flatMap writtenField = [] ↔ ∀ field ∈ fields, connective? field.1 = none := by
  rw [List.flatMap_eq_nil_iff]
  refine forall₂_congr fun field _ => ?_
  rw [writtenField]
  cases connective? field.1 <;> simp

theorem inside_of_connective?_eq_none (alone : connective? field.1 = none) :
    inside field = [] := by
  rw [inside, alone]

/-! ## Reading -/

theorem readings_eq_map (fields : List (Option String × Source)) :
    readings fields = fields.map fun field =>
      (field.1, ⟨field.2, ofSource? field.2, listOfSource? field.2⟩) := by
  induction fields with
  | nil => rfl
  | cons field rest ih => rw [readings, ih, List.map_cons]

theorem listOfSources?_eq_mapM (items : List Source) :
    listOfSources? items = items.mapM ofSource? := by
  induction items with
  | nil => rfl
  | cons item rest ih =>
      rw [listOfSources?, ih, List.mapM_cons]
      rfl

/-- A field that is written exactly once has a place among the others. -/
theorem exists_of_only? {name : String} {reading : Reading}
    (only : only? (readings fields) name = some reading) :
    ∃ before value after, fields = before ++ (some name, value) :: after ∧
      (∀ field ∈ before ++ after, field.1 ≠ some name) ∧
      reading = ⟨value, ofSource? value, listOfSource? value⟩ := by
  rw [only?, readings_eq_map, List.filter_map] at only
  split at only
  · rename_i found same
    obtain ⟨⟨key, value⟩, filtered, rfl⟩ := List.map_eq_singleton_iff.mp same
    obtain ⟨before, after, rfl, absent, named, more⟩ := List.filter_eq_cons_iff.mp filtered
    rw [List.filter_eq_nil_iff] at more
    simp only [Function.comp_apply, decide_eq_true_eq] at absent named more
    subst named
    refine ⟨before, value, after, rfl, fun field mem => ?_, (Option.some.inj only).symm⟩
    rcases List.mem_append.mp mem with inBefore | inAfter
    · exact absent field inBefore
    · exact more field inAfter
  · cases only

/-- The parts of a filter are what is written in the one field of its form; a comparison has
none. -/
inductive Says (fields : List (Option String × Source)) : Filter → Prop
  | combine {before after : List (Option String × Source)} {field : Option String × Source}
      {filter : Filter} (split : fields = before ++ field :: after)
      (alone : ∀ other ∈ before ++ after, other.1 ≠ field.1)
      (connects : connective? field.1 = some filter.form)
      (each : (inside field).mapM ofSource? = some filter.parts) : Says fields filter
  | compare {filter : Filter} (read : comparison? (readings fields) = some filter) :
      Says fields filter

theorem says_of_ofReadings? (read : ofReadings? (readings fields) = some filter) :
    Says fields filter := by
  have list {name : String} {form : Form} {build : List Filter → Filter}
      (connects : connective? (some name) = some form) (plain : form ≠ .not)
      (builds : ∀ filters, (build filters).form = form ∧ (build filters).parts = filters)
      (read : ((only? (readings fields) name).bind Reading.many).map build = some filter) :
      Says fields filter := by
    obtain ⟨filters, many, rfl⟩ := Option.map_eq_some_iff.mp read
    obtain ⟨reading, only, each⟩ := Option.bind_eq_some_iff.mp many
    obtain ⟨before, value, after, split, alone, rfl⟩ := exists_of_only? only
    refine .combine split alone ((builds filters).1 ▸ connects) ?_
    rw [(builds filters).2]
    cases value with
    | arr items =>
        have elements : inside (some name, .arr items) = items := by
          cases form <;> simp [inside, connects] at plain ⊢
        rw [elements, ← listOfSources?_eq_mapM]
        exact each
    | _ => cases each
  rw [ofReadings?] at read
  rcases (Option.orElse_eq_some _ _ _).mp read with all | ⟨-, read⟩
  · exact list rfl (by decide : Form.all ≠ .not) (fun _ => ⟨rfl, rfl⟩) all
  rcases (Option.orElse_eq_some _ _ _).mp read with any | ⟨-, read⟩
  · exact list rfl (by decide : Form.any ≠ .not) (fun _ => ⟨rfl, rfl⟩) any
  rcases (Option.orElse_eq_some _ _ _).mp read with not | ⟨-, compared⟩
  · obtain ⟨inner, one, rfl⟩ := Option.map_eq_some_iff.mp not
    obtain ⟨reading, only, reads⟩ := Option.bind_eq_some_iff.mp one
    obtain ⟨before, value, after, split, alone, rfl⟩ := exists_of_only? only
    refine .combine split alone rfl ?_
    have element : inside (some "not", value) = [value] := rfl
    have read : ofSource? value = some inner := reads
    simp [element, read, parts]
  · exact .compare compared

/-- A comparison is read from fields that carry its names. -/
theorem compare_mem_formsOf (read : comparison? (readings fields) = some filter) :
    Form.compare ∈ formsOf fields ∧ filter.form = .compare := by
  simp only [comparison?, Option.bind_eq_bind, Option.bind_eq_some_iff] at read
  obtain ⟨columnReading, onlyColumn, column, -, opReading, onlyOp, comparison, -, value, -,
    whole⟩ := read
  obtain ⟨before, columnSource, after, split, -⟩ := exists_of_only? onlyColumn
  obtain ⟨before', opSource, after', split', -⟩ := exists_of_only? onlyOp
  refine ⟨mem_formsOf.mpr fun name inNames => ?_, by cases whole; rfl⟩
  simp only [Form.names, List.mem_cons, List.not_mem_nil, or_false] at inNames
  rcases inNames with rfl | rfl
  · exact ⟨_, split ▸ List.mem_append_right _ List.mem_cons_self, rfl⟩
  · exact ⟨_, split' ▸ List.mem_append_right _ List.mem_cons_self, rfl⟩

/-! ## What is lost -/

/-- Lists that lie inside others can only be as long together if each is. -/
theorem append_eq_append_iff_of_sublist {α : Type} {a b c d : List α} (first : a.Sublist b)
    (second : c.Sublist d) : a ++ c = b ++ d ↔ a = b ∧ c = d := by
  refine ⟨fun same => ?_, fun ⟨same, same'⟩ => by rw [same, same']⟩
  have lengths := congrArg List.length same
  rw [List.length_append, List.length_append] at lengths
  have short := first.length_le
  have short' := second.length_le
  exact ⟨first.eq_of_length (by omega), second.eq_of_length (by omega)⟩

/-- The same inside a longer list. -/
theorem eq_append_iff_of_sublist {α : Type} {a b front back : List α} (within : a.Sublist b) :
    a = front ++ (b ++ back) ↔ front = [] ∧ back = [] ∧ a = b := by
  refine ⟨fun same => ?_, fun ⟨noFront, noBack, same⟩ => by simp [noFront, noBack, same]⟩
  have lengths := congrArg List.length same
  rw [List.length_append, List.length_append] at lengths
  have short := within.length_le
  exact ⟨List.length_eq_zero_iff.mp (by omega), List.length_eq_zero_iff.mp (by omega),
    within.eq_of_length (by omega)⟩

theorem condition?_of_form (other : filter.form ≠ .compare) : filter.condition? = none := by
  cases filter with
  | compare => exact absurd rfl other
  | _ => rfl

theorem parts_of_form (alone : filter.form = .compare) : filter.parts = [] := by
  cases filter with
  | compare => rfl
  | _ => cases alone

theorem ownConstraints_eq_nil_iff : ownConstraints fields = [] ↔ Form.compare ∉ formsOf fields := by
  rw [ownConstraints]
  split <;> simp_all

/-- What the filters of a list keep lies inside what is written in it. -/
theorem flatMap_kept {items : List Source} {filters : List Filter}
    (each : items.mapM ofSource? = some filters)
    (one : ∀ item ∈ items, ∀ part, ofSource? item = some part →
      (kept part).Sublist (written item) ∧ (kept part = written item ↔ OneForm item)) :
    (filters.flatMap kept).Sublist (items.flatMap written) ∧
      (filters.flatMap kept = items.flatMap written ↔ ∀ item ∈ items, OneForm item) := by
  induction items generalizing filters with
  | nil =>
      cases each
      simp
  | cons item rest ih =>
      simp only [List.mapM_cons, Option.bind_eq_bind, Option.bind_eq_some_iff, Option.pure_def,
        Option.some.injEq] at each
      obtain ⟨part, read, parts, more, rfl⟩ := each
      obtain ⟨within, exact⟩ := one item List.mem_cons_self part read
      obtain ⟨restWithin, restExact⟩ := ih more fun other mem =>
        one other (List.mem_cons_of_mem _ mem)
      rw [List.flatMap_cons, List.flatMap_cons, append_eq_append_iff_of_sublist within restWithin,
        exact, restExact, List.forall_mem_cons]
      exact ⟨within.append restWithin, Iff.rfl⟩

/-- An object carries one form exactly if no other field combines filters and it has no names of a
comparison. -/
theorem oneForm_combine_iff (split : fields = before ++ field :: after)
    (alone : ∀ other ∈ before ++ after, other.1 ≠ field.1) {form : Form}
    (connects : connective? field.1 = some form) :
    OneForm (.obj fields) ↔ Form.compare ∉ formsOf fields ∧
      (∀ other ∈ before ++ after, connective? other.1 = none) ∧
      ∀ inner ∈ inside field, OneForm inner := by
  have mem : field ∈ fields := split ▸ List.mem_append_right _ List.mem_cons_self
  have carried := mem_formsOf_of_connective? mem connects
  have mem_iff (other : Option String × Source) :
      other ∈ fields ↔ other ∈ before ++ after ∨ other = field := by
    rw [split]
    simp only [List.mem_append, List.mem_cons]
    tauto
  obtain ⟨combines, -⟩ := connective?_eq_some_iff.mp connects
  rw [oneForm_obj_iff]
  constructor
  · rintro ⟨⟨only, single⟩, below⟩
    have same := formsOf_eq_singleton_iff.mp single
    obtain rfl := (same form).mp carried
    refine ⟨fun compares => combines ((same _).mp compares).symm, fun other inOthers => ?_,
      below field mem⟩
    by_contra connects'
    obtain ⟨form', connects'⟩ := Option.ne_none_iff_exists'.mp connects'
    have carried' := mem_formsOf_of_connective? ((mem_iff other).mpr (.inl inOthers)) connects'
    rw [(same form').mp carried'] at connects'
    obtain ⟨-, name, inNames, key⟩ := connective?_eq_some_iff.mp connects
    obtain ⟨-, name', inNames', key'⟩ := connective?_eq_some_iff.mp connects'
    refine alone other inOthers ?_
    cases form with
    | compare => exact absurd rfl combines
    | all | any | not =>
        rw [key, key', List.mem_singleton.mp inNames, List.mem_singleton.mp inNames']
  · rintro ⟨notCompare, others, below⟩
    refine ⟨⟨form, formsOf_eq_singleton_iff.mpr fun form' => ⟨fun carried' => ?_, ?_⟩⟩,
      fun other inFields inner under => ?_⟩
    · have combines' : form' ≠ .compare := fun same => notCompare (same ▸ carried')
      obtain ⟨other, inFields, connects'⟩ := exists_connective?_of_mem_formsOf carried' combines'
      rcases (mem_iff other).mp inFields with inOthers | rfl
      · rw [others other inOthers] at connects'
        cases connects'
      · exact Option.some.inj (connects'.symm.trans connects)
    · rintro rfl
      exact carried
    · rcases (mem_iff other).mp inFields with inOthers | rfl
      · rw [inside_of_connective?_eq_none (others other inOthers)] at under
        cases under
      · exact below inner under

/-- A comparison is the one form of an object exactly if no field combines filters. -/
theorem oneForm_compare_iff (carried : Form.compare ∈ formsOf fields) :
    OneForm (.obj fields) ↔ ∀ field ∈ fields, connective? field.1 = none := by
  rw [oneForm_obj_iff]
  constructor
  · rintro ⟨⟨only, single⟩, -⟩ field mem
    have same := formsOf_eq_singleton_iff.mp single
    by_contra connects
    obtain ⟨form, connects⟩ := Option.ne_none_iff_exists'.mp connects
    have isOnly := (same form).mp (mem_formsOf_of_connective? mem connects)
    rw [isOnly, ← (same .compare).mp carried] at connects
    exact (connective?_eq_some_iff.mp connects).1 rfl
  · intro alone
    refine ⟨⟨.compare, formsOf_eq_singleton_iff.mpr fun form => ⟨fun carried' => ?_, ?_⟩⟩,
      fun field mem inner under => ?_⟩
    · by_contra combines
      obtain ⟨field, mem, connects⟩ := exists_connective?_of_mem_formsOf carried' combines
      rw [alone field mem] at connects
      cases connects
    · rintro rfl
      exact carried
    · rw [inside_of_connective?_eq_none (alone field mem)] at under
      cases under

theorem sizeOf_lt_of_mem_inside {inner : Source} (mem : field ∈ fields)
    (under : inner ∈ inside field) : sizeOf inner < sizeOf (Source.obj fields) := by
  have fieldSize := List.sizeOf_lt_of_mem mem
  obtain ⟨key, value⟩ := field
  have innerSize : sizeOf inner ≤ sizeOf value := by
    simp only [inside] at under
    split at under
    · rw [List.mem_singleton.mp under]
    · have := List.sizeOf_lt_of_mem under
      simp only [Source.arr.sizeOf_spec]
      omega
    · cases under
  simp only [Prod.mk.sizeOf_spec] at fieldSize
  simp only [Source.obj.sizeOf_spec]
  omega

/-- What a filter keeps lies inside what is written, and is all of it exactly if every object
carries one form. -/
theorem kept_of_ofSource? {source : Source} {filter : Filter}
    (read : ofSource? source = some filter) :
    (kept filter).Sublist (written source) ∧
      (kept filter = written source ↔ OneForm source) := by
  match source, read with
  | .obj fields, read =>
    rw [ofSource?] at read
    rw [written_obj, kept_eq]
    cases says_of_ofReadings? read with
    | @combine before after field _ split alone connects each =>
        have mem : field ∈ fields := split ▸ List.mem_append_right _ List.mem_cons_self
        obtain ⟨within, exact⟩ := flatMap_kept each fun item under part reads =>
          kept_of_ofSource? reads
        have noCondition := condition?_of_form (connective?_eq_some_iff.mp connects).1
        have own : writtenField field =
            ⟨filter.form, none⟩ :: (inside field).flatMap written := by
          rw [writtenField, connects]
        have whole : ownConstraints fields ++ fields.flatMap writtenField =
            (ownConstraints fields ++ before.flatMap writtenField) ++
              (writtenField field ++ after.flatMap writtenField) := by
          rw [split]
          simp
        have withinField : (⟨filter.form, none⟩ :: filter.parts.flatMap kept).Sublist
            (writtenField field) := own ▸ within.cons_cons _
        rw [whole, noCondition]
        refine ⟨(withinField.trans (List.sublist_append_left _ _)).trans
          (List.sublist_append_right _ _), ?_⟩
        rw [eq_append_iff_of_sublist withinField, List.append_eq_nil_iff,
          ownConstraints_eq_nil_iff, flatMap_writtenField_eq_nil_iff,
          flatMap_writtenField_eq_nil_iff, own, List.cons.injEq, exact,
          oneForm_combine_iff split alone connects, List.forall_mem_append]
        tauto
    | compare compared =>
        obtain ⟨carried, isCompare⟩ := compare_mem_formsOf compared
        rw [ownConstraints, if_pos carried, compared, Option.bind_some, parts_of_form isCompare,
          isCompare, List.flatMap_nil, oneForm_compare_iff carried,
          ← flatMap_writtenField_eq_nil_iff]
        refine ⟨List.sublist_append_left _ _, ?_⟩
        rw [eq_comm, List.append_right_eq_self]
termination_by sizeOf source
decreasing_by exact sizeOf_lt_of_mem_inside mem under

/-! ## What is ignored -/

/-- The names that a form reads: those that make it up, and the value of a comparison. -/
def Form.reads : Form → List String
  | compare => ["column", "op", "value"]
  | form => form.names

/-- The fields that a form reads. -/
def Form.own (form : Form) (fields : List (Option String × Source)) :
    List (Option String × Source) :=
  fields.filter fun field => form.reads.any fun name => field.1 = some name

theorem filter_readings_own {form : Form} {name : String}
    (reads : name ∈ form.reads) :
    (readings (form.own fields)).filter (fun field => field.1 = some name) =
      (readings fields).filter fun field => field.1 = some name := by
  rw [readings_eq_map, readings_eq_map, List.filter_map, List.filter_map, Form.own,
    List.filter_filter]
  congr 2
  funext field
  by_cases same : field.1 = some name
  · simpa [same] using reads
  · simp [same]

theorem filter_readings_own_eq_nil {form : Form} {name : String}
    (other : name ∉ form.reads) :
    (readings (form.own fields)).filter (fun field => field.1 = some name) = [] := by
  rw [readings_eq_map, List.filter_map, Form.own, List.filter_filter, List.map_eq_nil_iff,
    List.filter_eq_nil_iff]
  intro field _
  by_cases same : field.1 = some name
  · simpa [same] using other
  · simp [same]

theorem only?_own {form : Form} {name : String}
    (reads : name ∈ form.reads) :
    only? (readings (form.own fields)) name = only? (readings fields) name := by
  rw [only?, only?, filter_readings_own reads]

theorem only?_own_eq_none {form : Form} {name : String}
    (other : name ∉ form.reads) :
    only? (readings (form.own fields)) name = none := by
  rw [only?, filter_readings_own_eq_nil other]

/-- A filter is what the fields of its form say, whatever other fields there are. -/
theorem ofReadings?_own (read : ofReadings? (readings fields) = some filter) :
    ofReadings? (readings (filter.form.own fields)) = some filter := by
  rw [ofReadings?] at read ⊢
  rcases (Option.orElse_eq_some _ _ _).mp read with all | ⟨-, read⟩
  · obtain ⟨filters, -, rfl⟩ := Option.map_eq_some_iff.mp all
    have isAll : (Filter.all filters).form = .all := rfl
    rw [isAll, only?_own (by decide : "all" ∈ _), all]
    rfl
  rcases (Option.orElse_eq_some _ _ _).mp read with any | ⟨-, read⟩
  · obtain ⟨filters, -, rfl⟩ := Option.map_eq_some_iff.mp any
    have isAny : (Filter.any filters).form = .any := rfl
    rw [isAny, only?_own_eq_none (by decide : "all" ∉ _), only?_own (by decide : "any" ∈ _), any]
    rfl
  rcases (Option.orElse_eq_some _ _ _).mp read with not | ⟨-, compared⟩
  · obtain ⟨inner, -, rfl⟩ := Option.map_eq_some_iff.mp not
    have isNot : (Filter.not inner).form = .not := rfl
    rw [isNot, only?_own_eq_none (by decide : "all" ∉ _),
      only?_own_eq_none (by decide : "any" ∉ _), only?_own (by decide : "not" ∈ _), not]
    rfl
  · have isCompare := (compare_mem_formsOf compared).2
    rw [isCompare, only?_own_eq_none (by decide : "all" ∉ _),
      only?_own_eq_none (by decide : "any" ∉ _), only?_own_eq_none (by decide : "not" ∉ _),
      comparison?, comparand?, only?_own (by decide : "column" ∈ _),
      only?_own (by decide : "op" ∈ _), filter_readings_own (by decide : "value" ∈ _)]
    exact compared

/-! ## What the query keeps -/

end Filter

/-- The comparisons of a condition, from left to right. -/
def Expr.comparisons : Expr → List Expr
  | .node (.op .and) [left, right] => left.comparisons ++ right.comparisons
  | .node (.op .or) [left, right] => left.comparisons ++ right.comparisons
  | .node (.op .not) [operand] => operand.comparisons
  | e => [e]

namespace Filter

variable {table : Table}

/-- The comparison that a constraint asks for, with a column of the table. -/
def Constraint.comparison? (table : Table) (constraint : Constraint) : Option Expr :=
  constraint.condition?.map fun condition =>
    compareExpr (.member table.name condition.column) condition.comparison.operator condition.value

theorem comparisons_foldl {o : Operator} (connects : o = .and ∨ o = .or) (first : Expr)
    (rest : List Expr) :
    (rest.foldl (Expr.binary o) first).comparisons =
      (first :: rest).flatMap Expr.comparisons := by
  induction rest generalizing first with
  | nil => simp
  | cons e rest ih =>
      rw [List.foldl_cons, ih]
      rcases connects with rfl | rfl <;> simp [Expr.binary, Expr.comparisons]

theorem comparisons_combine {form : String} {o : Operator} {es : List Expr} {e : Expr}
    (connects : o = .and ∨ o = .or) (combined : combine form o es = .ok e) :
    e.comparisons = es.flatMap Expr.comparisons := by
  cases es with
  | nil => cases combined
  | cons first rest =>
      cases combined
      exact comparisons_foldl connects first rest

mutual

/-- The comparisons of an expression are those that its filter asks for. -/
theorem comparisons_toExpr {filter : Filter} {e : Expr} (ok : toExpr table filter = .ok e) :
    e.comparisons = (kept filter).filterMap (Constraint.comparison? table) := by
  cases filter with
  | all filters =>
      obtain ⟨es, each, combined⟩ := Result.bind_eq_ok.mp ok
      rw [comparisons_combine (.inl rfl) combined, comparisons_toExprs each]
      rfl
  | any filters =>
      obtain ⟨es, each, combined⟩ := Result.bind_eq_ok.mp ok
      rw [comparisons_combine (.inr rfl) combined, comparisons_toExprs each]
      rfl
  | not inner =>
      obtain ⟨operand, innerOk, whole⟩ := Result.bind_eq_ok.mp ok
      cases whole
      have same := comparisons_toExpr innerOk
      exact same
  | compare column comparison value =>
      obtain ⟨member, found, whole⟩ := Result.bind_eq_ok.mp ok
      cases whole
      rw [member_of_column found]
      cases comparison <;> rfl

theorem comparisons_toExprs {filters : List Filter} {es : List Expr}
    (ok : toExprs table filters = .ok es) :
    es.flatMap Expr.comparisons = (keptOf filters).filterMap (Constraint.comparison? table) := by
  cases filters with
  | nil =>
      cases ok
      rfl
  | cons filter rest =>
      simp only [toExprs, Result.bind_eq_ok, Result.pure_eq_ok] at ok
      obtain ⟨e, first, others, tail, rfl⟩ := ok
      rw [List.flatMap_cons, keptOf, List.filterMap_append, comparisons_toExpr first,
        comparisons_toExprs tail]

end

theorem exists_mem_of_toExprs {filters : List Filter} {es : List Expr}
    (ok : toExprs table filters = .ok es) (mem : filter ∈ filters) :
    ∃ e ∈ es, toExpr table filter = .ok e := by
  induction filters generalizing es with
  | nil => cases mem
  | cons first rest ih =>
      simp only [toExprs, Result.bind_eq_ok, Result.pure_eq_ok] at ok
      obtain ⟨e, firstOk, others, restOk, rfl⟩ := ok
      rcases List.mem_cons.mp mem with rfl | inRest
      · exact ⟨e, List.mem_cons_self, firstOk⟩
      · obtain ⟨other, inOthers, otherOk⟩ := ih restOk inRest
        exact ⟨other, List.mem_cons_of_mem _ inOthers, otherOk⟩

/-- The conditions of a query are the expressions of the filters of its document. -/
theorem toExprs_of_toQuery {document : QueryDocument} {query : Query}
    (ok : document.toQuery = .ok query) :
    toExprs document.table.toTable document.filters = .ok query.filters := by
  rw [QueryDocument.toQuery_eq] at ok
  obtain ⟨command, -, rest⟩ := Result.bind_eq_ok.mp ok
  obtain ⟨base, selected, whole⟩ := Result.bind_eq_ok.mp rest
  simp only [QueryDocument.selection, Result.bind_eq_ok, Result.pure_eq_ok] at selected
  obtain ⟨_, -, _, -, filters, filtersOk, _, -, rfl⟩ := selected
  cases command <;> cases whole <;> exact filtersOk

/-- A filter that is read has a form of which the object carries the names, and only the fields of
this form count.  It keeps some of the constraints that are written, in their order, and all of
them exactly if at every nesting level there is an object with the names of exactly one form.  A
query of a document keeps all comparisons of the filter and its truth. -/
theorem kept_eq_written_iff {depth : Nat} {source : Source} {filter : Filter}
    (read : reader depth source = some filter) :
    (∃ fields, source = .obj fields ∧ filter.form ∈ formsOf fields ∧
      ofSource? (.obj (filter.form.own fields)) = some filter) ∧
    (kept filter).Sublist (written source) ∧
    (kept filter = written source ↔ OneForm source) ∧
    ∀ (document : QueryDocument) (query : Query), document.toQuery = .ok query →
      filter ∈ document.filters → ∃ e ∈ query.filters,
        e.comparisons =
          (kept filter).filterMap (Constraint.comparison? document.table.toTable) ∧
        ∀ assignment : Sql.Assignment, e.truth assignment = filter.truth assignment := by
  obtain ⟨_, -, reads⟩ := Option.bind_eq_some_iff.mp read
  obtain ⟨within, exact⟩ := kept_of_ofSource? reads
  refine ⟨?_, within, exact, fun document query described mem => ?_⟩
  · match source, reads with
    | .obj fields, reads =>
      rw [ofSource?] at reads
      refine ⟨fields, rfl, ?_, by rw [ofSource?]; exact ofReadings?_own reads⟩
      cases says_of_ofReadings? reads with
      | combine split _ connects _ =>
          exact mem_formsOf_of_connective?
            (split ▸ List.mem_append_right _ List.mem_cons_self) connects
      | compare compared =>
          obtain ⟨carried, isCompare⟩ := compare_mem_formsOf compared
          exact isCompare ▸ carried
  · obtain ⟨e, inFilters, ok⟩ := exists_mem_of_toExprs (toExprs_of_toQuery described) mem
    exact ⟨e, inFilters, comparisons_toExpr ok, (toExpr_means ok).2⟩

/-- Films of one title, or those that are not too old, with a remark that is no form. -/
def titledOrRecent : Source :=
  .obj [(some "any", .arr [
    .obj [(some "column", .str (some "title")), (some "op", .str (some "==")),
      (some "value", .str (some "Vertigo"))],
    .obj [(some "note", .str (some "rather recent")), (some "not",
      .obj [(some "op", .str (some "<")), (some "column", .str (some "year")),
        (some "value", .num (some (.int 1958)))])]])]

/-- A deletion of these films. -/
def titledOrRecentDeletion : QueryDocument where
  table := ⟨"films", none, ["id"], ["title", "year"], none, none⟩
  command := "delete"
  columns := []
  aliases := []
  filters := [.any [.compare "title" .eq (.str "Vertigo"), .not (.compare "year" .lt (.int 1958))]]
  sorts := []
  take := 0
  skip := 0
  rows := []

theorem kept_eq_written_iff_titledOrRecent :
    reader 127 titledOrRecent = titledOrRecentDeletion.filters.head? ∧
    OneForm titledOrRecent ∧
    ∃ query e, titledOrRecentDeletion.toQuery = .ok query ∧ e ∈ query.filters ∧
      e.comparisons = [.binary .eq (.member "films" "title") (.literal (.str "Vertigo")),
        .binary .lt (.member "films" "year") (.literal (.int 1958))] := by
  have read : reader 127 titledOrRecent = titledOrRecentDeletion.filters.head? := by rfl
  obtain ⟨-, -, exact, keeps⟩ := kept_eq_written_iff read
  refine ⟨read, exact.mp rfl, ?_⟩
  obtain ⟨e, mem, same, -⟩ := keeps titledOrRecentDeletion _ rfl List.mem_cons_self
  exact ⟨_, e, rfl, mem, same⟩

/-- Old films, but not those that have been seen. -/
def oldUnseen : Json :=
  .obj [("all", .arr [.obj [("column", .str "year"), ("op", .str "<"), ("value", .int 1960)]]),
    ("not", .obj [("column", .str "seen"), ("op", .str "=="), ("value", .bool true)])]

/-- What has been seen is not asked for. -/
theorem not_oneForm_oldUnseen :
    reader 127 (Source.ofJson oldUnseen) = some (.all [.compare "year" .lt (.int 1960)]) ∧
    (written (Source.ofJson oldUnseen)).map Constraint.form = [.all, .compare, .not, .compare] ∧
    (kept (.all [.compare "year" .lt (.int 1960)])).map Constraint.form = [.all, .compare] ∧
    ¬ ∀ (depth : Nat) (json : Json) (filter : Filter),
      reader depth (Source.ofJson json) = some filter → OneForm (Source.ofJson json) := by
  have read : reader 127 (Source.ofJson oldUnseen) =
      some (.all [.compare "year" .lt (.int 1960)]) := by rfl
  refine ⟨read, by rfl, by rfl, fun always => ?_⟩
  obtain ⟨⟨form, single⟩, -⟩ := oneForm_obj_iff.mp (always 127 oldUnseen _ read)
  have carried : formsOf (Source.ofFields
      [("all", .arr [.obj [("column", .str "year"), ("op", .str "<"), ("value", .int 1960)]]),
        ("not", .obj [("column", .str "seen"), ("op", .str "=="), ("value", .bool true)])]) =
      [.all, .not] := by rfl
  rw [carried] at single
  cases single

end Filter

end Polyquery
