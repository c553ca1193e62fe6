import Polyquery.Proofs.Sql.Insertion
import Polyquery.Proofs.Sql.Upsert

/-!
# Insertions of runs

The statement that PostgreSQL gets for a run of rows is read as an insertion of these
rows.  If they carry the first key, it also says what happens where a stored row has their
keys: a single row gives it the values of its own parameters if the literals of its keys
match, several rows give it the values that could not be inserted.
-/

namespace Polyquery

open Sql Sql.Lexer

/-! ## Rows -/

/-- The value of a row for a column; null if it has none. -/
def Row.valueOf (row : Row) (column : String) : Value :=
  ((Fields.find? column row).map Value.ofJson).getD .null

/-! ## Insertions of runs -/

/-- The operand that a parameter is. -/
def Sql.Operand.bound (mode : Mode) (params : List Value) (n : Nat) : Operand :=
  match mode with
  | .placeholders => .parameter n
  | .inline => .literal (params.getD (n - 1) .null)

theorem Piece.atoms_bound {mode : Mode} {params : List Value} {n : Nat} :
    Piece.atoms mode params (.bound n) = (Operand.bound mode params n).atoms := by
  cases mode <;> rfl

namespace UpsertRun

variable (mode : Mode) (table : Table) (run : UpsertRun)

/-- The operands of a row behind a number of parameters. -/
def rowOperands (n : Nat) : List Operand :=
  (List.range' n run.columns.length).map fun k => .bound mode run.values (k + 1)

/-- The operands of the rows. -/
def operands : List (List Operand) :=
  (List.range run.rows.length).map fun i => run.rowOperands mode (i * run.columns.length)

/-- What a stored row gets: the values of the only row, or those of the row that could not
be inserted. -/
def sources : List Operand :=
  match run.rows with
  | [_] => run.rowOperands mode 0
  | _ => run.columns.map .excluded

/-- What the keys of a stored row have to be equal to. -/
def keyLiterals : Option Pairing :=
  match run.rows with
  | [row] =>
    some ⟨table.primaryKeys, table.primaryKeys.map fun key => .literal (row.valueOf key),
      (List.length_map _).symm⟩
  | _ => none

theorem length_rowOperands (n : Nat) : (run.rowOperands mode n).length = run.columns.length := by
  rw [rowOperands, List.length_map, List.length_range']

theorem length_sources : run.columns.length = (run.sources mode).length := by
  unfold sources
  split
  · rw [length_rowOperands]
  · rw [List.length_map]

/-- The insertion of a run that carries the first key. -/
def insertion : Insertion where
  table := table.name
  columns := run.columns
  rows := run.operands mode
  resolution := some ⟨table.primaryKeys, ⟨run.columns, run.sources mode, run.length_sources mode⟩,
    run.keyLiterals table⟩
  returned := table.primaryKeys.head?

/-! ### Groups -/

section Groups

open Group Piece

variable (params : List Value)

theorem makes_names {names : List String} (present : names ≠ []) :
    Makes ((tuple "," (names.map fun name => [.name name])).flatMap (atoms mode params))
      [.tuple (names.map nameAtoms)] := by
  apply makes_tuple
  · rw [List.map_map]
    rfl
  · exact mt List.map_eq_nil_iff.mp present
  · rw [List.forall_mem_map]
    exact fun name _ => List.forall_mem_singleton.mpr rfl

theorem makes_operands {items : List (List Piece)} {operands : List Operand}
    (spelled : items.map (List.flatMap (atoms mode params)) = operands.map Operand.atoms)
    (present : operands ≠ []) :
    Makes ((tuple "," items).flatMap (atoms mode params))
      [.tuple (operands.map Operand.atoms)] := by
  apply makes_tuple spelled
  · exact mt List.map_eq_nil_iff.mp present
  · rw [List.forall_mem_map]
    exact fun operand _ => operand.isInner_atoms

theorem spelled_rowPieces (n : Nat) :
    (run.rowPieces n).map (List.flatMap (atoms mode run.values)) =
      (run.rowOperands mode n).map Operand.atoms := by
  rw [rowPieces, rowOperands, List.map_map, List.map_map]
  apply List.map_congr_left
  intro k _
  rw [Function.comp_apply, Function.comp_apply, List.flatMap_singleton, atoms_bound]

theorem rowOperands_ne_nil (present : run.columns ≠ []) (n : Nat) :
    run.rowOperands mode n ≠ [] := by
  intro none
  rw [rowOperands, List.map_eq_nil_iff, List.range'_eq_nil_iff] at none
  exact present (List.length_eq_zero_iff.mp none)

theorem operands_ne_nil (some : run.rows ≠ []) : run.operands mode ≠ [] := by
  intro none
  rw [operands, List.map_eq_nil_iff, List.range_eq_nil] at none
  exact some (List.length_eq_zero_iff.mp none)

theorem all_length_operands :
    (run.operands mode).all (fun row => row.length = run.columns.length) := by
  rw [List.all_eq_true, operands, List.forall_mem_map]
  exact fun i _ => decide_eq_true (run.length_rowOperands mode _)

/-- The groups up to the values. -/
theorem makes_valuesPieces (present : run.columns ≠ []) :
    Makes ((run.valuesPieces .postgres table ",").flatMap (atoms mode run.values))
      (.word "INSERT" :: .keyword .into :: .name table.name :: .tuple (run.columns.map nameAtoms) ::
        .keyword .values :: [Group.comma].intercalate
          ((run.operands mode).map fun row => [.tuple (row.map Operand.atoms)])) := by
  have opening : Makes (atoms mode run.values (.text "INSERT INTO "))
      [.word "INSERT", .keyword .into] :=
    makes_text [.word "INSERT", .keyword .into] (by cbv) (by decide)
  have space : Makes (atoms mode run.values (.text " ")) [] :=
    makes_text [] (by cbv) (by decide)
  have word : Makes (atoms mode run.values (.text " VALUES ")) [.keyword .values] :=
    makes_text [.keyword .values] (by cbv) (by decide)
  have names := makes_names mode run.values present
  have rows := @makes_separated mode run.values _ (List.range run.rows.length) _ _ fun i _ =>
    makes_operands mode run.values (run.spelled_rowPieces mode (i * run.columns.length))
      (run.rowOperands_ne_nil mode present _)
  rw [valuesPieces, writtenRows_eq, List.map_map, operands, List.map_map]
  simp only [List.flatMap_append, List.flatMap_cons, List.flatMap_nil, List.append_nil]
  exact (((opening.append (makes_name.append space)).append names).append word).append rows

/-- Columns get as many values. -/
theorem reads_assignment {columns : List String}
    {values : List (List Piece)} {operands : List Operand}
    (spelled : values.map (List.flatMap (atoms mode params)) = operands.map Operand.atoms)
    (length : columns.length = operands.length) (present : columns ≠ []) :
    ∃ groups, Makes ((assignment (columns.map fun column => [.name column]) values).flatMap
        (atoms mode params)) groups ∧
      ∀ rest, rest.head? ≠ some Group.dot →
        Insertion.assigned? (groups ++ rest) = some (⟨columns, operands, length⟩, rest) := by
  have equal : Makes (atoms mode params (.text " = ")) [.equal] :=
    makes_text [.eq] (by cbv) (by decide)
  have several : operands ≠ [] := by
    rintro rfl
    exact present (List.length_eq_zero_iff.mp length)
  rcases columns with - | ⟨column, - | ⟨second, others⟩⟩
  · exact absurd rfl present
  · obtain ⟨operand, rfl⟩ := List.length_eq_one_iff.mp length.symm
    obtain ⟨value, rfl, text⟩ := List.map_eq_singleton_iff.mp spelled
    refine ⟨[.name column, .equal] ++ operand.atoms.map .atom, ?_, fun rest ends =>
      Insertion.assigned?_single column operand ends⟩
    have alone : Makes operand.atoms (operand.atoms.map .atom) := by
      apply makes_atoms
      rintro a mem rfl
      cases operand.isInner_atoms _ mem
    rw [List.map_singleton, assignment, List.flatMap_append, text]
    simp only [List.flatMap_append, List.flatMap_cons, List.flatMap_nil, List.append_nil]
    exact (makes_name.append equal).append alone
  · have left := makes_names mode params present
    have right := makes_operands mode params spelled several
    refine ⟨[.tuple ((column :: second :: others).map nameAtoms), .equal,
      .tuple (operands.map Operand.atoms)], ?_, fun rest _ => ?_⟩
    · rw [List.map_cons, List.map_cons, assignment]
      · simp only [List.flatMap_append, List.flatMap_cons, List.flatMap_nil, List.append_nil]
        exact (left.append equal).append right
      · rintro name value same -
        cases same
    · have names := mapM_name? (column :: second :: others)
      simp only [List.map_cons, List.cons_append, List.nil_append, Insertion.assigned?] at names ⊢
      rw [names, mapM_ofAtoms?]
      simp only [Option.bind_eq_bind, Option.bind_some, Pairing.of?, dif_pos length]
      rfl

theorem spelled_conflictValues :
    (run.conflictValues run.writtenRows).map (List.flatMap (atoms mode run.values)) =
      (run.sources mode).map Operand.atoms := by
  have excluded : (run.columns.map fun column => [Piece.text "EXCLUDED.", .name column]).map
      (List.flatMap (atoms mode run.values)) =
        (run.columns.map Operand.excluded).map Operand.atoms := by
    have words : wordTokens "EXCLUDED." = [.word "EXCLUDED", .dot] := by cbv
    rw [List.map_map, List.map_map]
    apply List.map_congr_left
    intro column _
    rw [Function.comp_apply, List.flatMap_cons, atoms, words]
    rfl
  obtain ⟨columns, rows⟩ := run
  rcases rows with - | ⟨row, - | ⟨second, others⟩⟩
  · exact excluded
  · exact spelled_rowPieces mode _ 0
  · exact excluded

/-- The groups of the condition on the key. -/
theorem makes_keyCondition (row : Row) (keyed : table.primaryKeys ≠ []) :
    Makes ((keyCondition table row).flatMap (atoms mode params))
      [.keyword .condition, .tuple (table.primaryKeys.map (ownedAtoms table.name)), .equal,
        .tuple ((table.primaryKeys.map fun key =>
          .literal (row.valueOf key)).map Operand.atoms)] := by
  have word : Makes (atoms mode params (.text " WHERE ")) [.keyword .condition] :=
    makes_text [.keyword .condition] (by cbv) (by decide)
  have equal : Makes (atoms mode params (.text " = ")) [.equal] :=
    makes_text [.eq] (by cbv) (by decide)
  have columns : Makes ((tuple "," (table.primaryKeys.map fun key =>
      [.name table.name, .text ".", .name key])).flatMap (atoms mode params))
        [.tuple (table.primaryKeys.map (ownedAtoms table.name))] := by
    apply makes_tuple
    · have dot : wordTokens "." = [.dot] := by cbv
      rw [List.map_map]
      apply List.map_congr_left
      intro key _
      rw [Function.comp_apply, List.flatMap_cons, List.flatMap_cons, atoms, atoms, dot]
      rfl
    · exact mt List.map_eq_nil_iff.mp keyed
    · rw [List.forall_mem_map]
      intro key _
      simp [ownedAtoms, Atom.isInner]
  have values : Makes ((tuple "," (table.primaryKeys.map fun key =>
      [.value (((Fields.find? key row).map Value.ofJson).getD .null)])).flatMap (atoms mode params))
        [.tuple ((table.primaryKeys.map fun key =>
          .literal (row.valueOf key)).map Operand.atoms)] := by
    apply makes_operands
    · rw [List.map_map, List.map_map]
      rfl
    · exact mt List.map_eq_nil_iff.mp keyed
  have all := ((word.append columns).append equal).append values
  simp only [keyCondition, List.flatMap_append, List.flatMap_cons, List.flatMap_nil,
    List.append_nil]
  exact all

/-- The condition of a run, in front of the request for the key. -/
theorem reads_condition (keyed : table.primaryKeys ≠ []) :
    ∃ groups, Makes ((match run.rows with
        | [row] => keyCondition table row
        | _ => []).flatMap (atoms mode params)) groups ∧
      ∀ rest, (groups ++ .word "RETURNING" :: rest).head? ≠ some Group.dot ∧
        Insertion.condition? table.name (groups ++ .word "RETURNING" :: rest) =
          some (run.keyLiterals table, .word "RETURNING" :: rest) := by
  unfold keyLiterals
  split
  · rename_i row _
    refine ⟨_, makes_keyCondition mode table params row keyed, fun rest => ⟨?_, ?_⟩⟩
    · rintro ⟨⟩
    · rw [List.cons_append, List.cons_append, List.cons_append, List.cons_append,
        Insertion.condition?, mapM_columnOf?, mapM_ofAtoms?]
      simp only [Option.bind_eq_bind, Option.bind_some, Pairing.of?, List.length_map, dite_true]
      rfl
  · refine ⟨[], Makes.nil, fun rest => ⟨?_, rfl⟩⟩
    rintro ⟨⟩

/-- What happens on a conflict of a run that carries the first key. -/
theorem reads_conflictClause (carries : run.hasKey table) (keyed : table.primaryKeys ≠ [])
    (present : run.columns ≠ []) :
    ∃ tail, Makes ((run.conflictClause table run.writtenRows).flatMap (atoms mode run.values))
        (.word "ON" :: tail) ∧
      ∀ rest, Insertion.resolution? table.name (.word "ON" :: tail ++ .word "RETURNING" :: rest) =
        some ((run.insertion mode table).resolution, .word "RETURNING" :: rest) := by
  have opening : Makes (atoms mode run.values (.text " ON CONFLICT "))
      [.word "ON", .word "CONFLICT"] :=
    makes_text [.word "ON", .word "CONFLICT"] (by cbv) (by decide)
  have words : Makes (atoms mode run.values (.text " DO UPDATE SET "))
      [.word "DO", .word "UPDATE", .word "SET"] :=
    makes_text [.word "DO", .word "UPDATE", .word "SET"] (by cbv) (by decide)
  have target := makes_names mode run.values keyed
  obtain ⟨assigned, makesAssigned, readsAssigned⟩ :=
    reads_assignment mode run.values (run.spelled_conflictValues mode) (run.length_sources mode)
      present
  obtain ⟨condition, makesCondition, readsCondition⟩ :=
    run.reads_condition mode table run.values keyed
  refine ⟨.word "CONFLICT" :: .tuple (table.primaryKeys.map nameAtoms) :: .word "DO" ::
    .word "UPDATE" :: .word "SET" :: (assigned ++ condition), ?_, fun rest => ?_⟩
  · rw [conflictClause, if_pos carries]
    simp only [List.flatMap_append, List.flatMap_cons, List.flatMap_nil, List.append_nil]
    exact (((opening.append target).append words).append makesAssigned).append makesCondition
  · obtain ⟨ends, read⟩ := readsCondition rest
    simp only [List.cons_append, List.append_assoc, Insertion.resolution?]
    rw [mapM_name?, readsAssigned _ ends]
    simp only [Option.bind_eq_bind, Option.bind_some, read]
    rfl

theorem makes_returningClause {key : String} {keys : List String}
    (keyed : table.primaryKeys = key :: keys) :
    Makes ((returningClause table).flatMap (atoms mode params))
      [.word "RETURNING", .name key, .keyword .named, .word "insertid"] := by
  have opening : Makes (atoms mode params (.text " RETURNING ")) [.word "RETURNING"] :=
    makes_text [.word "RETURNING"] (by cbv) (by decide)
  have label : Makes (atoms mode params (.text " AS insertid"))
      [.keyword .named, .word "insertid"] :=
    makes_text [.keyword .named, .word "insertid"] (by cbv) (by decide)
  rw [returningClause, keyed]
  simp only [List.flatMap_cons, List.flatMap_nil, List.append_nil]
  exact opening.append (makes_name.append label)

/-- The statement of a run that carries the first key is read as its insertion. -/
theorem insertion?_pieces (carries : run.hasKey table) (some : run.rows ≠ []) :
    (⟨run.pieces .postgres table, run.values⟩ : Draft).insertion? mode =
      .some (run.insertion mode table) := by
  obtain ⟨key, keys, keyed, carried⟩ : ∃ key keys, table.primaryKeys = key :: keys ∧
      key ∈ run.columns := by
    unfold hasKey at carries
    split at carries
    · cases carries
    · rename_i key keys keyed
      exact ⟨key, keys, keyed, List.contains_iff_mem.mp carries⟩
  have present : run.columns ≠ [] := List.ne_nil_of_mem carried
  obtain ⟨tail, makesConflict, readsConflict⟩ :=
    run.reads_conflictClause mode table carries (by rw [keyed]; exact List.cons_ne_nil _ _) present
  have semicolon : Makes (atoms mode run.values (.text ";")) [.atom (.token .semicolon)] :=
    makes_text [.semicolon] (by cbv) (by decide)
  have all := (((run.makes_valuesPieces mode table present).append makesConflict).append
    (makes_returningClause mode table run.values keyed)).append semicolon
  have made := all []
  simp only [Group.ofAtoms?, Option.map_some, List.append_nil, List.append_assoc,
    List.cons_append, List.nil_append] at made
  have rows := fun rest => @Insertion.rows?_intercalate (.word "ON" :: rest) _
    (run.operands_ne_nil mode some) fun same => by cases same
  have conflict := readsConflict [.name key, .keyword .named, .word "insertid",
    .atom (.token .semicolon)]
  rw [List.cons_append] at conflict
  rw [Draft.insertion?, Insertion.ofAtoms?, pieces]
  simp only [List.flatMap_append, List.flatMap_cons, List.flatMap_nil, List.append_nil,
    List.append_assoc]
  rw [made]
  simp only [Option.bind_eq_bind, Option.bind_some, Insertion.ofGroups?, mapM_name?, rows, conflict,
    Insertion.returning]
  rw [if_pos ⟨run.all_length_operands mode, trivial⟩, insertion, keyed]
  rfl

end Groups

end UpsertRun

end Polyquery
