import Mathlib.Algebra.GroupWithZero.Nat
import Mathlib.Data.List.DropRight
import Mathlib.Data.List.Forall2
import Mathlib.Data.List.GetD
import Polyquery.Output.RowTable
import Polyquery.Proofs.Fields

/-!
# Columns that line up

Every line of a table shows the text of a column at the same places.  What is left out at
the end of a line are spaces if the texts have no other white space, so that a line reads
like one that is as long as all columns.  Nor is there a line break in it then.
-/

namespace Polyquery.Output

/-! ## Reading a line -/

/-- The characters of a line from a place on; behind its end a line is blank. -/
def readAt (line : List Char) (start width : Nat) : List Char :=
  (List.range' start width).map fun place => line.getD place ' '

/-- The white space of a text consists of spaces. -/
def Plain (text : List Char) : Prop :=
  ∀ c ∈ text, Text.isBlank c = true → c = ' '

instance (text : List Char) : Decidable (Plain text) :=
  List.decidableBAll (fun c => Text.isBlank c = true → c = ' ') text

theorem readAt_append (before part after : List Char) :
    readAt (before ++ part ++ after) before.length part.length = part := by
  apply List.ext_getElem
  · rw [readAt, List.length_map, List.length_range']
  · intro i _ inPart
    have there : (before ++ part ++ after).getD (before.length + i) ' ' = part[i] := by
      rw [List.append_assoc, List.getD_append_right _ _ _ _ (Nat.le_add_right _ _),
        Nat.add_sub_cancel_left, List.getD_append _ _ _ _ inPart, List.getD_eq_getElem _ _ inPart]
    simpa [readAt] using there

theorem getD_concat_space (line : List Char) (place : Nat) :
    (line ++ [' ']).getD place ' ' = line.getD place ' ' := by
  rcases Nat.lt_or_ge place line.length with inside | behind
  · exact List.getD_append _ _ _ _ inside
  · rw [List.getD_append_right _ _ _ _ behind, List.getD_eq_default _ _ behind]
    cases place - line.length <;> rfl

/-- A line looks the same without the spaces at its end. -/
theorem getD_trimEnd {line : List Char} (plain : Plain line) (place : Nat) :
    (Text.trimEnd line).getD place ' ' = line.getD place ' ' := by
  change (line.rdropWhile Text.isBlank).getD place ' ' = line.getD place ' '
  induction line using List.reverseRecOn with
  | nil => rfl
  | append_singleton rest last ih =>
      obtain ⟨ofRest, ofLast⟩ := List.forall_mem_append.mp plain
      rw [List.rdropWhile_concat]
      split
      · rename_i blank
        rw [ih ofRest, ofLast last List.mem_cons_self blank, getD_concat_space]
      · rfl

theorem readAt_trimEnd {line : List Char} (plain : Plain line) (start width : Nat) :
    readAt (Text.trimEnd line) start width = readAt line start width :=
  List.map_congr_left fun place _ => getD_trimEnd plain place

theorem trimEnd_subset (line : List Char) : Text.trimEnd line ⊆ line :=
  (List.rdropWhile_prefix Text.isBlank line).subset

/-! ## Parts of a line -/

section

variable {sep part : List Char} {parts : List (List Char)}

theorem mem_intercalate {c : Char} (mem : c ∈ sep.intercalate parts) :
    c ∈ sep ∨ ∃ part ∈ parts, c ∈ part := by
  induction parts with
  | nil => cases mem
  | cons first rest ih =>
      cases rest with
      | nil =>
          rw [List.intercalate_singleton] at mem
          exact .inr ⟨first, List.mem_cons_self, mem⟩
      | cons second others =>
          rw [List.intercalate_cons_cons, List.mem_append, List.mem_append] at mem
          rcases mem with (inFirst | inSep) | later
          · exact .inr ⟨first, List.mem_cons_self, inFirst⟩
          · exact .inl inSep
          · refine (ih later).imp_right ?_
            rintro ⟨other, inRest, inside⟩
            exact ⟨other, List.mem_cons_of_mem first inRest, inside⟩

/-- Each of the joined parts stands behind the parts before it, with a separator behind each
of them. -/
theorem exists_intercalate_eq {i : Nat} (found : parts[i]? = some part) :
    ∃ before after, sep.intercalate parts = before ++ part ++ after ∧
      before.length = ((parts.take i).map fun other => other.length + sep.length).sum := by
  induction parts generalizing i with
  | nil => cases found
  | cons first rest ih =>
      cases i with
      | zero =>
          cases found
          cases rest with
          | nil => exact ⟨[], [], by simp, rfl⟩
          | cons second others =>
              refine ⟨[], sep ++ sep.intercalate (second :: others), ?_, rfl⟩
              rw [List.intercalate_cons_cons, List.nil_append, List.append_assoc]
      | succ i =>
          obtain ⟨before, after, whole, length⟩ := ih found
          cases rest with
          | nil => cases found
          | cons second others =>
              refine ⟨first ++ sep ++ before, after, ?_, ?_⟩
              · rw [List.intercalate_cons_cons, whole]
                simp only [List.append_assoc]
              · rw [List.take_succ_cons, List.map_cons, List.sum_cons, List.length_append, length,
                  List.length_append]

end

/-! ## Lines -/

section

variable {columns : List String} {width : String → Nat} {text : String → String}

theorem cells_map (columns : List String) (width : String → Nat) (text : String → String) :
    cells (columns.map width) (columns.map text) =
      columns.map fun column => padded (width column) (text column) := by
  induction columns with
  | nil => rfl
  | cons column rest ih => rw [List.map_cons, List.map_cons, cells, ih, List.map_cons]

theorem length_padded {width : Nat} {text : String} (fits : text.length ≤ width) :
    (padded width text).length = width := by
  rw [padded, List.length_append, List.length_replicate, String.length_toList]
  omega

theorem plain_padded {text : String} (plain : Plain text.toList) (width : Nat) :
    Plain (padded width text) := by
  rw [padded, Plain, List.forall_mem_append]
  exact ⟨plain, fun c mem _ => List.eq_of_mem_replicate mem⟩

theorem plain_intercalate (plain : ∀ column ∈ columns, Plain (text column).toList) :
    Plain ([' ', ' '].intercalate (cells (columns.map width) (columns.map text))) := by
  intro c mem blank
  rcases mem_intercalate mem with inSep | ⟨part, inParts, inPart⟩
  · simpa using inSep
  · rw [cells_map] at inParts
    obtain ⟨column, inColumns, rfl⟩ := List.mem_map.mp inParts
    exact plain_padded (plain column inColumns) _ c inPart blank

theorem plain_line (plain : ∀ column ∈ columns, Plain (text column).toList) :
    Plain (line (columns.map width) (columns.map text)).toList := by
  intro c mem
  rw [line, String.toList_ofList] at mem
  exact plain_intercalate plain c (trimEnd_subset _ mem)

/-- A line shows the text of each column, with spaces up to the width of the column, behind
the columns before it and two spaces behind each of them. -/
theorem readAt_line (fits : ∀ column ∈ columns, (text column).length ≤ width column)
    (plain : ∀ column ∈ columns, Plain (text column).toList) {i : Nat} {column : String}
    (found : columns[i]? = some column) :
    readAt (line (columns.map width) (columns.map text)).toList
        ((columns.take i).map fun other => width other + 2).sum (width column) =
      (text column).toList ++ List.replicate (width column - (text column).length) ' ' := by
  have padding : (columns.map fun column => padded (width column) (text column))[i]? =
      some (padded (width column) (text column)) := by
    rw [List.getElem?_map, found, Option.map_some]
  obtain ⟨before, after, whole, length⟩ := @exists_intercalate_eq [' ', ' '] _ _ _ padding
  have start : before.length = ((columns.take i).map fun other => width other + 2).sum := by
    rw [length, ← List.map_take, List.map_map]
    refine congrArg List.sum (List.map_congr_left fun other mem => ?_)
    rw [Function.comp, length_padded (fits other (List.mem_of_mem_take mem))]
    rfl
  have partLength : (padded (width column) (text column)).length = width column :=
    length_padded (fits column (List.mem_of_getElem? found))
  have shown := readAt_append before (padded (width column) (text column)) after
  rw [start, partLength, ← whole] at shown
  rw [line, String.toList_ofList, readAt_trimEnd (plain_intercalate plain), cells_map]
  exact shown

end

/-! ## Tables -/

section

variable {rows : List Row} {row : Row} {column : String}

theorem addNames_eq (seen names : List String) :
    addNames seen names = seen ++ (names.filter fun name => !seen.contains name).eraseDups := by
  induction names generalizing seen with
  | nil => simp [addNames]
  | cons name rest ih =>
      have step : addNames seen (name :: rest) =
          addNames (if seen.contains name then seen else seen ++ [name]) rest := rfl
      rw [step, ih]
      by_cases known : seen.contains name = true
      · rw [if_pos known, List.filter_cons_of_neg (by simpa using known)]
      · have later : (rest.filter fun other => !seen.contains other).filter (!· == name) =
            rest.filter fun other => !(seen ++ [name]).contains other := by
          rw [List.filter_filter]
          refine List.filter_congr fun other _ => ?_
          rw [List.contains_append, Bool.not_or, Bool.and_comm, List.contains_cons]
          simp
        rw [if_neg known, List.filter_cons_of_pos (by simpa using known), List.eraseDups_cons,
          later, List.append_assoc]
        rfl

/-- The columns are the names without repetitions, in the order of the rows. -/
theorem columnsOf_eq (rows : List Row) :
    columnsOf rows = (rows.flatMap Fields.names).eraseDups := by
  have whole : columnsOf rows = addNames [] (rows.flatMap Fields.names) :=
    List.foldl_flatMap.symm
  rw [whole, addNames_eq]
  simp

/-- A column is as wide as the longest of its name and its texts. -/
theorem max?_widthOf (rows : List Row) (column : String) :
    ((column :: rows.map fun row => cell (Fields.find? column row)).map String.length).max? =
      some (widthOf rows column) := by
  rw [List.map_cons, List.max?_cons', List.foldl_map, List.foldl_map]
  rfl

theorem length_le_widthOf (rows : List Row) (column : String) :
    column.length ≤ widthOf rows column ∧
      ∀ row ∈ rows, (cell (Fields.find? column row)).length ≤ widthOf rows column := by
  obtain ⟨-, longest⟩ := List.max?_eq_some_iff.mp (max?_widthOf rows column)
  rw [List.map_cons, List.forall_mem_cons, List.map_map, List.forall_mem_map] at longest
  exact longest

/-- The line of some texts, one for each column. -/
def lineOf (rows : List Row) (text : String → String) : String :=
  line ((columnsOf rows).map (widthOf rows)) ((columnsOf rows).map text)

/-- The text under the name of a column. -/
def ruleOf (rows : List Row) (column : String) : String :=
  String.ofList (List.replicate (widthOf rows column) '-')

/-- Where a column starts: behind the columns before it and two spaces behind each of them. -/
def startOf (rows : List Row) (i : Nat) : Nat :=
  (((columnsOf rows).take i).map fun column => widthOf rows column + 2).sum

/-- A line has a text in every column and behind it spaces up to the width of the column. -/
def Shows (rows : List Row) (line : List Char) (text : String → String) : Prop :=
  ∀ i column, (columnsOf rows)[i]? = some column →
    readAt line (startOf rows i) (widthOf rows column) =
      (text column).toList ++ List.replicate (widthOf rows column - (text column).length) ' '

theorem rowTable_eq (filled : columnsOf rows ≠ []) :
    rowTable rows = "\n".intercalate (lineOf rows id :: lineOf rows (ruleOf rows) ::
      rows.map fun row => lineOf rows fun column => cell (Fields.find? column row)) := by
  rw [rowTable]
  split
  · rename_i none
    exact absurd none filled
  · simp only [lineOf, List.map_id, List.map_map]
    rfl

theorem shows_lineOf {text : String → String}
    (fits : ∀ column ∈ columnsOf rows, (text column).length ≤ widthOf rows column)
    (plain : ∀ column ∈ columnsOf rows, Plain (text column).toList) :
    Shows rows (lineOf rows text).toList text :=
  fun _ _ found => readAt_line fits plain found

/-- Lines without a line break come back one by one. -/
theorem splitOn_lines {lines : List String} (some : lines ≠ [])
    (plain : ∀ line ∈ lines, Plain line.toList) :
    ("\n".intercalate lines).toList.splitOn '\n' = lines.map String.toList := by
  rw [String.toList_intercalate]
  refine List.splitOn_intercalate '\n' ?_ (mt List.map_eq_nil_iff.mp some)
  rw [List.forall_mem_map]
  intro line mem broken
  exact absurd (plain line mem '\n' broken (by decide)) (by decide)

theorem mem_columnsOf :
    column ∈ columnsOf rows ↔ ∃ row ∈ rows, ∃ field ∈ row, field.1 = column := by
  simp only [columnsOf_eq, List.mem_eraseDups, List.mem_flatMap, Fields.names, List.mem_map]

theorem plain_ruleOf (rows : List Row) (column : String) : Plain (ruleOf rows column).toList := by
  intro c mem blank
  rw [ruleOf, String.toList_ofList] at mem
  rw [List.eq_of_mem_replicate mem] at blank
  exact absurd blank (by decide)

theorem plain_cell (plain : ∀ field ∈ row, Plain (cell (some field.2)).toList) (column : String) :
    Plain (cell (Fields.find? column row)).toList := by
  cases found : Fields.find? column row with
  | none => decide
  | some value => exact plain _ (Fields.mem_of_find?_eq_some found)

/-- Rows with a field are shown under the distinct names of their fields, in the order in which
these first appear, with two lines more than there are rows.  The names, a rule and the texts
of each row stand in columns that are as wide as their longest text, with two spaces behind
each, and a missing field looks like a null. -/
theorem rowTable_shows {rows : List Row} (filled : ∃ row ∈ rows, row ≠ [])
    (plain : ∀ row ∈ rows, ∀ field ∈ row,
      Plain field.1.toList ∧ Plain (cell (some field.2)).toList) :
    columnsOf rows = (rows.flatMap Fields.names).eraseDups ∧
    (∀ column, ((column :: rows.map fun row => cell (Fields.find? column row)).map
      String.length).max? = some (widthOf rows column)) ∧
    cell none = "NULL" ∧ cell (some .null) = "NULL" ∧
    ∃ header rule body, (rowTable rows).toList.splitOn '\n' = header :: rule :: body ∧
      body.length = rows.length ∧ Shows rows header id ∧ Shows rows rule (ruleOf rows) ∧
      List.Forall₂ (fun row line =>
        Shows rows line fun column => cell (Fields.find? column row)) rows body := by
  have columnsFilled : columnsOf rows ≠ [] := by
    obtain ⟨row, inRows, notEmpty⟩ := filled
    obtain ⟨field, inRow⟩ := List.exists_mem_of_ne_nil row notEmpty
    exact List.ne_nil_of_mem (mem_columnsOf.mpr ⟨row, inRows, field, inRow, rfl⟩)
  have plainName : ∀ column ∈ columnsOf rows, Plain (id column).toList := by
    intro column mem
    obtain ⟨row, inRows, field, inRow, rfl⟩ := mem_columnsOf.mp mem
    exact (plain row inRows field inRow).1
  have plainRow (row : Row) (mem : row ∈ rows) (column : String) :
      Plain (cell (Fields.find? column row)).toList :=
    plain_cell (fun field inRow => (plain row mem field inRow).2) column
  refine ⟨columnsOf_eq rows, max?_widthOf rows, rfl, rfl, (lineOf rows id).toList,
    (lineOf rows (ruleOf rows)).toList, rows.map fun row =>
      (lineOf rows fun column => cell (Fields.find? column row)).toList, ?_, List.length_map _,
    ?_, ?_, ?_⟩
  · rw [rowTable_eq columnsFilled, splitOn_lines (List.cons_ne_nil _ _), List.map_cons,
      List.map_cons, List.map_map]
    · rfl
    · rw [List.forall_mem_cons, List.forall_mem_cons, List.forall_mem_map]
      refine ⟨plain_line plainName, plain_line fun column _ => plain_ruleOf rows column, ?_⟩
      exact fun row mem => plain_line fun column _ => plainRow row mem column
  · exact shows_lineOf (fun column _ => (length_le_widthOf rows column).1) plainName
  · refine shows_lineOf (fun column _ => ?_) fun column _ => plain_ruleOf rows column
    rw [ruleOf, String.length_ofList, List.length_replicate]
  · rw [List.forall₂_map_right_iff, List.forall₂_same]
    intro row mem
    exact shows_lineOf (fun column _ => (length_le_widthOf rows column).2 row mem)
      fun column _ => plainRow row mem column

/-- Films with an accent, a missing field, a null and an empty text. -/
def programme : List Row :=
  [[("film", .str "Ça ira"), ("seen", .bool true)], [("film", .null), ("note", .str "")]]

theorem rowTable_shows_programme :
    (∃ row ∈ programme, row ≠ []) ∧
    (∀ row ∈ programme, ∀ field ∈ row,
      Plain field.1.toList ∧ Plain (cell (some field.2)).toList) ∧
    ∃ header rule body, (rowTable programme).toList.splitOn '\n' = header :: rule :: body ∧
      readAt header 14 4 = "note".toList ∧ readAt rule 0 6 = "------".toList ∧
      body.map (readAt · 14 4) = ["NULL".toList, "    ".toList] := by
  have filled : ∃ row ∈ programme, row ≠ [] := by decide
  have plain : ∀ row ∈ programme, ∀ field ∈ row,
      Plain field.1.toList ∧ Plain (cell (some field.2)).toList := by decide
  obtain ⟨-, -, -, -, header, rule, body, lines, -, ofHeader, ofRule, ofBody⟩ :=
    rowTable_shows filled plain
  have atNote : (columnsOf programme)[2]? = some "note" := by decide
  refine ⟨filled, plain, header, rule, body, lines, ?_, ?_, ?_⟩
  · exact ofHeader 2 "note" atNote
  · exact ofRule 0 "film" (by decide)
  · match body, ofBody with
    | [first, second], .cons ofFirst (.cons ofSecond .nil) =>
      rw [List.map_cons, List.map_cons, List.map_nil]
      exact congrArg₂ (fun first second => [first, second]) (ofFirst 2 "note" atNote)
        (ofSecond 2 "note" atNote)

end

end Polyquery.Output
