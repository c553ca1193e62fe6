import Polyquery.Proofs.Result
import Polyquery.Proofs.Sql.Writing
import Polyquery.Sql.Generate

/-!
# Phrases

The pieces of a statement are slots and words.  The text of a slot depends on data:
it is a name, a parameter or a literal.  Words are fixed.  In a phrase slots never
touch: words stand between them that end and begin with a separator.  Whatever is
written is a phrase, or a phrase with page numbers and a semicolon behind it.
-/

namespace Polyquery

open Writing

/-! ## Characters -/

namespace Piece

variable {d : Dialect} {parameter : Nat → String} {first second pieces : List Piece}

/-- The characters of some pieces, with a spelling for parameters. -/
def chars (d : Dialect) (parameter : Nat → String) (pieces : List Piece) : List Char :=
  pieces.flatMap fun piece => (piece.spell d parameter).toList

theorem chars_append :
    chars d parameter (first ++ second) = chars d parameter first ++ chars d parameter second :=
  List.flatMap_append

theorem chars_text_cons (s : String) :
    chars d parameter (.text s :: pieces) = s.toList ++ chars d parameter pieces :=
  List.flatMap_cons

theorem chars_singleton (piece : Piece) :
    chars d parameter [piece] = (piece.spell d parameter).toList :=
  List.flatMap_singleton ..

end Piece

theorem Draft.toList_spell {d : Dialect} {parameter : Nat → String} (draft : Draft) :
    (draft.spell d parameter).toList = Piece.chars d parameter draft.pieces := by
  rw [Draft.spell, String.toList_join, List.flatMap_map, Piece.chars]

/-! ## Words -/

/-- The characters that separate what stands on both sides. -/
def isSeparator (c : Char) : Bool :=
  c = ' ' || c = '.' || c = ',' || c = '(' || c = ')'

/-- The characters of fixed words. -/
def isWordy (c : Char) : Bool :=
  c.isAlpha || c = '_' || c = '*' || c = '=' || c = '<' || c = '>' || isSeparator c

/-- A text of fixed words. -/
def IsWords (s : String) : Prop :=
  s.toList.all isWordy

/-- Words that a slot can follow. -/
def IsOpening (s : String) : Prop :=
  IsWords s ∧ s.toList.getLast?.any isSeparator

/-- Words that can follow a slot. -/
def IsClosing (s : String) : Prop :=
  IsWords s ∧ s.toList.head?.any isSeparator

/-- Words that can stand between two slots. -/
def IsGlue (s : String) : Prop :=
  IsOpening s ∧ IsClosing s

instance (s : String) : Decidable (IsWords s) :=
  inferInstanceAs (Decidable (_ = true))

instance (s : String) : Decidable (IsOpening s) :=
  inferInstanceAs (Decidable (_ ∧ _))

instance (s : String) : Decidable (IsClosing s) :=
  inferInstanceAs (Decidable (_ ∧ _))

instance (s : String) : Decidable (IsGlue s) :=
  inferInstanceAs (Decidable (_ ∧ _))

theorem IsClosing.ne_nil {s : String} (closing : IsClosing s) : s.toList ≠ [] := by
  intro none
  have head := closing.2
  rw [none] at head
  cases head

/-! ## Phrases -/

/-- Words and slots, where slots do not touch. -/
inductive Phrase (slot : Piece → Prop) : List Piece → Prop
  | slot {piece : Piece} (allowed : slot piece) : Phrase slot [piece]
  | words {s : String} (words : IsWords s) : Phrase slot [.text s]
  | before {s : String} {pieces : List Piece} (opening : IsOpening s)
      (inner : Phrase slot pieces) : Phrase slot (.text s :: pieces)
  | after {s : String} {pieces : List Piece} (closing : IsClosing s)
      (inner : Phrase slot pieces) : Phrase slot (pieces ++ [.text s])
  | between {s : String} {first second : List Piece} (glue : IsGlue s)
      (left : Phrase slot first) (right : Phrase slot second) :
      Phrase slot (first ++ .text s :: second)

namespace Phrase

variable {slot : Piece → Prop} {pieces : List Piece} {items : List (List Piece)} {s : String}

theorem parenthesized (phrase : Phrase slot pieces) (needed : Bool) :
    Phrase slot (parenthesized needed pieces) := by
  cases needed with
  | false => exact phrase
  | true =>
      apply before (by decide)
      exact after (by decide) phrase

/-- Items with separators between them are a phrase unless there is none. -/
theorem separated (glue : IsGlue s) (phrases : ∀ item ∈ items, Phrase slot item)
    (present : items ≠ []) : Phrase slot (separated s items) := by
  induction items with
  | nil => exact absurd rfl present
  | cons first rest ih =>
      have head := phrases first List.mem_cons_self
      have tail : ∀ item ∈ rest, Phrase slot item := fun item mem =>
        phrases item (List.mem_cons_of_mem first mem)
      cases rest with
      | nil => rw [Polyquery.separated, List.intercalate_singleton]; exact head
      | cons second others =>
          rw [Polyquery.separated, List.intercalate_cons_cons, List.append_assoc]
          exact between glue head (ih tail (List.cons_ne_nil _ _))

/-- Words with a list of items behind them, which may be empty. -/
theorem before_separated {word : String} (opening : IsOpening word) (glue : IsGlue s)
    (phrases : ∀ item ∈ items, Phrase slot item) :
    Phrase slot (.text word :: Polyquery.separated s items) := by
  by_cases none : items = []
  · rw [none]
    exact .words opening.1
  · exact .before opening (separated glue phrases none)

theorem tuple (glue : IsGlue s) (phrases : ∀ item ∈ items, Phrase slot item) :
    Phrase slot (UpsertRun.tuple s items) :=
  .after (by decide) (before_separated (by decide) glue phrases)

end Phrase

/-- Pieces that may follow a phrase. -/
def Continues (slot : Piece → Prop) (pieces : List Piece) : Prop :=
  ∀ first, Phrase slot first → Phrase slot (first ++ pieces)

namespace Continues

variable {slot : Piece → Prop} {pieces : List Piece} {items : List (List Piece)} {s word : String}

theorem nil : Continues slot [] := by
  intro first phrase
  rwa [List.append_nil]

theorem append {more : List Piece} (first : Continues slot pieces)
    (second : Continues slot more) : Continues slot (pieces ++ more) := by
  intro start phrase
  rw [← List.append_assoc]
  exact second _ (first start phrase)

theorem words (closing : IsClosing word) : Continues slot [.text word] :=
  fun _ phrase => .after closing phrase

theorem words_phrase (glue : IsGlue word) (phrase : Phrase slot pieces) :
    Continues slot (.text word :: pieces) :=
  fun _ first => .between glue first phrase

/-- Words with a list of items behind them, which may be empty. -/
theorem words_separated (wordGlue : IsGlue word) (glue : IsGlue s)
    (phrases : ∀ item ∈ items, Phrase slot item) :
    Continues slot (.text word :: separated s items) := by
  by_cases none : items = []
  · rw [none]
    exact Continues.words wordGlue.2
  · exact words_phrase wordGlue (Phrase.separated glue phrases none)

end Continues

/-- Words in front of a number. -/
def IsPage (page : Piece) : Prop :=
  ∃ (word : String) (n : Nat), IsClosing word ∧ page = .text (word ++ toString n)

/-- A phrase, page numbers and a semicolon. -/
def Terminated (slot : Piece → Prop) (pieces : List Piece) : Prop :=
  ∃ phrase pages : List Piece, Phrase slot phrase ∧ (∀ page ∈ pages, IsPage page) ∧
    pieces = phrase ++ pages ++ [.text ";"]

/-! ## Expressions -/

section Writers

variable {d : Dialect} {slot : Piece → Prop} (names : ∀ name, slot (.name name))
  (bounds : ∀ n, slot (.bound n))

include names bounds

/-- What is written for an expression is a phrase. -/
theorem Expr.ensures_write (e : Expr) : (e.write d).Ensures (Phrase slot) := by
  fun_induction Expr.write d e with
  | case1 value =>
      refine (ensures_bind value fun n => bounds n).bind fun piece allowed => ensures_pure ?_
      exact .slot allowed
  | case2 name => exact ensures_pure (.slot (names name))
  | case3 c =>
      refine ensures_pure ?_
      apply Phrase.words
      cases c <;> cases d <;> decide
  | case4 o operand before ih =>
      refine ih.bind fun pieces phrase => ensures_pure ?_
      apply Phrase.before
      · cases o <;> first | contradiction | decide
      · exact phrase.parenthesized _
  | case5 o operand after ih =>
      refine ih.bind fun pieces phrase => ensures_pure ?_
      apply Phrase.after
      · cases o <;> first | contradiction | decide
      · exact phrase.parenthesized _
  | case6 o operand notBefore notAfter => exact ensures_throw _
  | case7 o left right joined ihLeft ihRight =>
      refine ihLeft.bind fun first firstPhrase => ihRight.bind fun second secondPhrase => ?_
      rw [List.append_assoc]
      refine ensures_pure ?_
      apply Phrase.between _ firstPhrase secondPhrase
      cases o <;> first | contradiction | decide
  | case8 o left right between ihLeft ihRight =>
      refine ihLeft.bind fun first firstPhrase => ihRight.bind fun second secondPhrase => ?_
      rw [List.append_assoc]
      refine ensures_pure ?_
      apply Phrase.between _ (firstPhrase.parenthesized _) (secondPhrase.parenthesized _)
      cases o <;> first | contradiction | decide
  | case9 => exact ensures_throw _
  | case10 => exact ensures_throw _

theorem Expr.ensures_writeOperand (parent : Operator) (e : Expr) :
    (e.writeOperand d parent).Ensures (Phrase slot) := by
  refine (e.ensures_write names bounds).bind fun pieces phrase => ensures_pure ?_
  exact phrase.parenthesized _

/-! ## Queries -/

namespace Query

variable (query : Query)

theorem ensures_writeProjection {word : String} (opening : IsOpening word) :
    (query.writeProjection d).Ensures fun pieces => Phrase slot (.text word :: pieces) := by
  rw [writeProjection]
  by_cases all : query.selectsAll
  · rw [if_pos all]
    exact ensures_pure (.before opening (.words (by decide)))
  · rw [if_neg all]
    refine (Ensures.mapM fun e _ => e.ensures_write names bounds).bind ?_
    intro selected phrases
    have named : ∀ entry ∈ query.aliases, Ensures (do
        return (← entry.2.write d) ++ [.text " AS ", .name entry.1]) (Phrase slot) := by
      intro entry _
      refine (entry.2.ensures_write names bounds).bind fun pieces phrase => ensures_pure ?_
      exact .between (by decide) phrase (.slot (names entry.1))
    refine (Ensures.mapM named).bind fun aliases aliasPhrases => ensures_pure ?_
    apply Phrase.before_separated opening (by decide)
    intro item mem
    rcases List.mem_append.mp mem with inSelected | inAliases
    · exact phrases item inSelected
    · exact aliasPhrases item inAliases

theorem ensures_writeHead : (query.writeHead d).Ensures (Phrase slot) := by
  unfold writeHead
  split
  · have opening : IsOpening (d.keyword .select ++ " ") := by cases d <;> decide
    refine (ensures_writeProjection names bounds query opening).bind
      fun pieces phrase => ensures_pure ?_
    exact Continues.words_phrase (by decide) (.slot (names _)) _ phrase
  · have opening : IsOpening (d.keyword .delete ++ " FROM ") := by cases d <;> decide
    exact ensures_pure (.before opening (.slot (names _)))
  · exact ensures_throw _

theorem ensures_writeFilters : (query.writeFilters d).Ensures (Continues slot) := by
  rw [writeFilters]
  by_cases none : query.filters.isEmpty
  · rw [if_pos none]
    exact ensures_pure Continues.nil
  · rw [if_neg none]
    refine (Ensures.mapM fun e _ => e.ensures_writeOperand names bounds .and).bind
      fun items phrases => ensures_pure ?_
    exact Continues.words_separated (by decide) (by decide) phrases

theorem ensures_writeSorts : (query.writeSorts d).Ensures (Continues slot) := by
  rw [writeSorts]
  by_cases none : query.sorts.isEmpty
  · rw [if_pos none]
    exact ensures_pure Continues.nil
  · rw [if_neg none]
    have sorted : ∀ sort ∈ query.sorts, Ensures (do
        return (← sort.expr.write d) ++ [.text (" " ++ sort.order.operator.sql)])
        (Phrase slot) := by
      intro sort _
      refine (sort.expr.ensures_write names bounds).bind fun pieces phrase => ensures_pure ?_
      apply Phrase.after _ phrase
      cases sort.order <;> decide
    refine (Ensures.mapM sorted).bind fun items phrases => ensures_pure ?_
    exact Continues.words_separated (by decide) (by decide) phrases

omit names bounds in
theorem isPage_of_mem_paging {page : Piece} (mem : page ∈ query.paging) : IsPage page := by
  rcases List.mem_append.mp mem with limit | offset
  · by_cases none : query.take = 0
    · simp [none] at limit
    · rw [if_neg none, List.mem_singleton] at limit
      exact ⟨" LIMIT ", query.take, by decide, limit⟩
  · by_cases none : query.skip = 0
    · simp [none] at offset
    · rw [if_neg none, List.mem_singleton] at offset
      exact ⟨" OFFSET ", query.skip, by decide, offset⟩

theorem ensures_writeTail : (query.writeTail d).Ensures fun pieces =>
    ∃ sorts pages, Continues slot sorts ∧ (∀ page ∈ pages, IsPage page) ∧
      pieces = sorts ++ pages := by
  unfold writeTail
  split
  · refine (ensures_writeSorts names bounds query).bind fun sorts continues => ensures_pure ?_
    exact ⟨sorts, query.paging, continues, fun _ mem => query.isPage_of_mem_paging mem, rfl⟩
  · exact ensures_pure ⟨[], [], Continues.nil, fun _ mem => absurd mem List.not_mem_nil, rfl⟩

/-- What is written for a selection or deletion is a terminated phrase. -/
theorem ensures_write : (query.write d).Ensures (Terminated slot) := by
  refine (ensures_writeHead names bounds query).bind fun head phrase => ?_
  refine (ensures_writeFilters names bounds query).bind fun filters continues => ?_
  refine (ensures_writeTail names bounds query).bind fun tail ended => ?_
  obtain ⟨sorts, pages, sorted, numbered, rfl⟩ := ended
  refine ensures_pure ?_
  refine ⟨head ++ filters ++ sorts, pages, sorted _ (continues _ phrase), numbered, ?_⟩
  simp only [List.append_assoc]

end Query

/-! ## Runs of rows -/

namespace UpsertRun

variable (table : Table) (run : UpsertRun)

omit bounds in
theorem phrase_of_mem_columnNames {item : List Piece} (mem : item ∈ run.columnNames) :
    Phrase slot item := by
  obtain ⟨column, -, rfl⟩ := List.mem_map.mp mem
  exact .slot (names column)

omit names in
theorem ensures_writeRow (row : Row) :
    (run.writeRow row).Ensures fun items => ∀ item ∈ items, Phrase slot item := by
  refine Ensures.mapM fun column _ => ?_
  exact (ensures_bind _ fun n => bounds n).bind fun piece allowed => ensures_pure (.slot allowed)

theorem ensures_writeValues {separator : String} (glue : IsGlue separator) :
    (run.writeValues d separator table).Ensures fun written =>
      Phrase slot written.1 ∧ ∀ row ∈ written.2, ∀ item ∈ row, Phrase slot item := by
  refine (Ensures.mapM fun row _ => ensures_writeRow bounds run row).bind
    fun rows phrases => ensures_pure ?_
  have opening : IsOpening (d.keyword .upsert ++ " INTO ") := by cases d <;> decide
  have columns : Phrase slot (tuple separator run.columnNames) :=
    Phrase.tuple glue fun item mem => phrase_of_mem_columnNames names run mem
  have head : Phrase slot ([.text (d.keyword .upsert ++ " INTO "), .name table.name] ++
      .text " " :: tuple separator run.columnNames) :=
    .between (by decide) (.before opening (.slot (names _))) columns
  have values : Continues slot (.text " VALUES " :: separated separator
      (rows.map (tuple separator))) := by
    apply Continues.words_separated (by decide) glue
    intro item mem
    obtain ⟨row, inRows, rfl⟩ := List.mem_map.mp mem
    exact Phrase.tuple glue (phrases row inRows)
  have both := values _ head
  simp only [List.append_assoc, List.cons_append, List.nil_append] at both ⊢
  exact ⟨both, phrases⟩

theorem ensures_writeReplace : (run.writeReplace d table).Ensures (Terminated slot) := by
  refine (ensures_writeValues names bounds table run (by decide)).bind ?_
  rintro ⟨pieces, rows⟩ ⟨phrase, -⟩
  refine ensures_pure ?_
  exact ⟨pieces, [], phrase, fun _ mem => absurd mem List.not_mem_nil, by rw [List.append_nil]⟩

variable (values : ∀ value, slot (.value value))

omit bounds in
theorem phrase_of_mem_conflictValues {rows : List (List (List Piece))}
    (phrases : ∀ row ∈ rows, ∀ item ∈ row, Phrase slot item) {item : List Piece}
    (mem : item ∈ run.conflictValues rows) : Phrase slot item := by
  unfold conflictValues at mem
  split at mem
  · exact phrases _ List.mem_cons_self item mem
  · obtain ⟨column, -, rfl⟩ := List.mem_map.mp mem
    exact .before (by decide) (.slot (names column))

omit names bounds in
theorem phrase_assignment {columns items : List (List Piece)}
    (columnPhrases : ∀ column ∈ columns, Phrase slot column)
    (itemPhrases : ∀ item ∈ items, Phrase slot item) :
    Phrase slot (assignment columns items) := by
  unfold assignment
  split
  · rename_i column item
    rw [List.append_assoc]
    exact .between (by decide)
      (columnPhrases column List.mem_cons_self) (itemPhrases item List.mem_cons_self)
  · rw [List.append_assoc]
    exact .between (by decide)
      (Phrase.tuple (by decide) columnPhrases)
      (Phrase.tuple (by decide) itemPhrases)

include values in
omit bounds in
theorem continues_keyCondition (row : Row) : Continues slot (keyCondition table row) := by
  have keys : Phrase slot (tuple "," (table.primaryKeys.map fun key =>
      [.name table.name, .text ".", .name key])) := by
    apply Phrase.tuple (by decide)
    intro item mem
    obtain ⟨key, -, rfl⟩ := List.mem_map.mp mem
    change Phrase slot ([.name table.name] ++ .text "." :: [.name key])
    exact .between (by decide) (.slot (names _)) (.slot (names key))
  have literals : Phrase slot (tuple "," (table.primaryKeys.map fun key =>
      [.value (((Fields.find? key row).map Value.ofJson).getD .null)])) := by
    apply Phrase.tuple (by decide)
    intro item mem
    obtain ⟨key, -, rfl⟩ := List.mem_map.mp mem
    exact .slot (values _)
  simp only [keyCondition, List.append_assoc, List.singleton_append]
  exact Continues.words_phrase (by decide)
    (.between (by decide) keys literals)

include values in
omit bounds in
theorem continues_conflictClause {rows : List (List (List Piece))}
    (phrases : ∀ row ∈ rows, ∀ item ∈ row, Phrase slot item) :
    Continues slot (run.conflictClause table rows) := by
  unfold conflictClause
  split
  · have keys : Phrase slot (tuple "," (table.primaryKeys.map fun key => [.name key])) := by
      apply Phrase.tuple (by decide)
      intro item mem
      obtain ⟨key, -, rfl⟩ := List.mem_map.mp mem
      exact .slot (names key)
    have assigned : Phrase slot (assignment run.columnNames (run.conflictValues rows)) :=
      phrase_assignment (fun item mem => phrase_of_mem_columnNames names run mem)
        fun item mem => phrase_of_mem_conflictValues names run phrases mem
    apply Continues.append
    · rw [List.append_assoc _ [Piece.text " DO UPDATE SET "]]
      exact .append (.words_phrase (by decide) keys)
        (.words_phrase (by decide) assigned)
    · split
      · exact continues_keyCondition names table values _
      · exact Continues.nil
  · exact Continues.nil

omit bounds in
theorem continues_returningClause : Continues slot (returningClause table) := by
  unfold returningClause
  split
  · exact Continues.nil
  · exact .append (.words_phrase (by decide) (.slot (names _)))
      (.words (by decide))

include values in
theorem ensures_writeInsert : (run.writeInsert d table).Ensures (Terminated slot) := by
  refine (ensures_writeValues names bounds table run (by decide)).bind ?_
  rintro ⟨pieces, rows⟩ ⟨phrase, rowPhrases⟩
  refine ensures_pure ?_
  have updated : Phrase slot (pieces ++ run.conflictClause table rows) :=
    continues_conflictClause names table run values rowPhrases _ phrase
  exact ⟨_, [], continues_returningClause names table _ updated,
    fun _ mem => absurd mem List.not_mem_nil, by rw [List.append_nil]⟩

include values in
/-- What is written for a run of rows is a terminated phrase. -/
theorem ensures_write : (run.write d table).Ensures (Terminated slot) := by
  cases d with
  | mysql => exact ensures_writeReplace names bounds table run
  | sqlite => exact ensures_writeReplace names bounds table run
  | postgres => exact ensures_writeInsert names bounds table run values

omit names bounds in
theorem terminated_lastRowId : Terminated slot lastRowId.pieces :=
  ⟨[.text "SELECT last_insert_rowid() AS id"], [], .words (by decide),
    fun _ mem => absurd mem List.not_mem_nil, rfl⟩

omit names bounds in
theorem eq_lastRowId_of_mem_followUp {draft : Draft} (mem : draft ∈ run.followUp d table) :
    draft = lastRowId := by
  unfold followUp at mem
  split at mem
  · split at mem
    · exact List.mem_singleton.mp mem
    · cases mem
  · cases mem

include values in
/-- All statements of a run of rows are terminated phrases. -/
theorem terminated_of_mem_drafts {drafts : List Draft} (made : run.drafts d table = .ok drafts)
    {draft : Draft} (mem : draft ∈ drafts) : Terminated slot draft.pieces := by
  unfold UpsertRun.drafts at made
  split at made
  · cases made
  · cases ran : (run.write d table).run with
    | mk outcome params =>
        rw [ran] at made
        cases outcome with
        | error e => cases made
        | ok pieces =>
            cases made
            rcases List.mem_cons.mp mem with stored | follows
            · rw [stored]
              exact (ensures_write names bounds table run values).of_run ran
            · rw [eq_lastRowId_of_mem_followUp table run follows]
              exact terminated_lastRowId

end UpsertRun

/-! ## Drafts -/

/-- Whatever is drafted for a query is a terminated phrase. -/
theorem Query.terminated_of_mem_drafts (values : ∀ value, slot (.value value)) {query : Query}
    {drafts : List Draft} (made : query.drafts d = .ok drafts) {draft : Draft}
    (mem : draft ∈ drafts) : Terminated slot draft.pieces := by
  unfold Query.drafts at made
  split at made
  · obtain ⟨runs, runsMade, joined⟩ := Result.bind_eq_ok.1 made
    rw [Result.pure_eq_ok] at joined
    rw [← joined] at mem
    obtain ⟨ofRun, inRuns, inRun⟩ := List.mem_flatten.mp mem
    obtain ⟨run, -, runMade⟩ := Result.exists_mem_of_mapM_eq_ok runsMade inRuns
    exact UpsertRun.terminated_of_mem_drafts names bounds query.table run values runMade inRun
  · obtain ⟨only, onlyMade, alone⟩ := Result.bind_eq_ok.1 made
    rw [Result.pure_eq_ok] at alone
    rw [← alone, List.mem_singleton] at mem
    rw [mem]
    unfold Query.draft at onlyMade
    cases ran : (query.write d).run with
    | mk outcome params =>
        rw [ran] at onlyMade
        cases outcome with
        | error e => cases onlyMade
        | ok pieces =>
            cases onlyMade
            exact (query.ensures_write names bounds).of_run ran

end Writers

end Polyquery
