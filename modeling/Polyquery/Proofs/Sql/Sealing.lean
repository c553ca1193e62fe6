import Polyquery.Proofs.Result
import Polyquery.Proofs.Sql.Phrase
import Polyquery.Proofs.Sql.Quotation
import Polyquery.Sql.Generate

/-!
# Sealed statements

No name and no value leaves its quotation: what is written between marks is read
from one mark to the other, whatever the text is, and everything else has neither
marks nor semicolons.  So each statement of a query is sealed, with placeholders and
with literals.
-/

namespace Polyquery

variable {d : Dialect}

/-! ## Bare text -/

/-- The characters with which a quotation or a statement ends in some dialect. -/
def specials : List Char :=
  [';', '\'', '"', '`']

/-- A text in which no quotation begins and no statement ends. -/
def IsBare (text : String) : Prop :=
  ∀ c ∈ text.toList, c ∉ specials

instance (text : String) : Decidable (IsBare text) :=
  List.decidableBAll (fun c => c ∉ specials) text.toList

/-- The characters of a kind to which no special character belongs. -/
theorem not_mem_specials {kind : Char → Bool} {c : Char} (none : !specials.any kind)
    (belongs : kind c) : c ∉ specials := by
  intro special
  have some : specials.any kind := List.any_eq_true.mpr ⟨c, special, belongs⟩
  rw [some] at none
  exact Bool.false_ne_true none

theorem mem_specials_of_mem_marks {c : Char} (mark : c ∈ d.marks) : c ∈ specials := by
  have all : d.marks ⊆ specials := by cases d <;> simp [Dialect.marks, specials]
  exact all mark

theorem ne_semicolon_of_mem_marks {c : Char} (mark : c ∈ d.marks) : c ≠ ';' := by
  rintro rfl
  exact Region.semicolon_not_mem_marks mark

theorem ne_semicolon_of_not_mem_specials {c : Char} (bare : c ∉ specials) : c ≠ ';' := by
  rintro rfl
  exact bare (by decide)

theorem IsNumeral.isBare {text : String} (numeral : IsNumeral text) : IsBare text :=
  fun c mem => not_mem_specials (by decide) (numeral c mem)

theorem IsWords.isBare {text : String} (words : IsWords text) : IsBare text :=
  fun c mem => not_mem_specials (by decide) (List.all_eq_true.mp words c mem)

theorem IsBare.append {first second : String} (left : IsBare first) (right : IsBare second) :
    IsBare (first ++ second) := by
  intro c mem
  rw [String.toList_append] at mem
  rcases List.mem_append.mp mem with inFirst | inSecond
  · exact left c inFirst
  · exact right c inSecond

namespace Passage

variable {region : Region} {chars : List Char}

theorem outside_of_bare (bare : ∀ c ∈ chars, c ∉ specials) :
    Passage d .outside chars .outside := by
  have walk : Walk d (· ∉ specials) .outside chars .outside :=
    Walk.outside_of_bare bare fun c mem mark => bare c mem (mem_specials_of_mem_marks mark)
  exact walk.passage fun c => ne_semicolon_of_not_mem_specials

/-- Bare text leads outside from where a quotation has ended. -/
theorem of_bare (rests : region.Rests d) (bare : ∀ c ∈ chars, c ∉ specials)
    (some : chars ≠ []) : Passage d region chars .outside := by
  have walk : Walk d (· ∉ specials) region chars .outside :=
    Walk.of_bare rests bare (fun c mem mark => bare c mem (mem_specials_of_mem_marks mark)) some
  exact walk.passage fun c => ne_semicolon_of_not_mem_specials

end Passage

/-! ## Slots -/

/-- A text that begins outside, ends where a quotation may have ended, and ends no
statement. -/
def Guarded (d : Dialect) (text : String) : Prop :=
  ∃ last : Region, last.Rests d ∧ Passage d .outside text.toList last

theorem IsBare.guarded {text : String} (bare : IsBare text) : Guarded d text :=
  ⟨.outside, trivial, Passage.outside_of_bare bare⟩

theorem Shows.guarded {text : String} (shows : Shows d (Shown d) text) : Guarded d text := by
  obtain ⟨last, rests, walk⟩ := shows
  refine ⟨last, rests, walk.passage ?_⟩
  rintro c (mark | numeral)
  · exact ne_semicolon_of_mem_marks mark
  · rintro rfl
    cases numeral

theorem guarded_quoteName (name : String) : Guarded d (d.quoteName name) :=
  (shows_quoteName name).guarded

theorem guarded_literal (value : Value) : Guarded d (d.literal value) :=
  (shows_literal value).guarded

theorem guarded_placeholder (n : Nat) : Guarded d (d.placeholder n) := by
  have question : IsBare "?" := by decide
  cases d with
  | mysql => exact question.guarded
  | sqlite => exact question.guarded
  | postgres =>
      have dollar : IsBare "$" := by decide
      exact (dollar.append (IsNumeral.natText n).isBare).guarded

/-! ## Phrases -/

section Phrases

open Piece

variable {parameter : Nat → String} {pieces : List Piece}

/-- A phrase of guarded slots is guarded: words lead outside from where a slot has
ended, and the next slot begins there. -/
theorem Phrase.passage
    (phrase : Phrase (fun piece => Guarded d (piece.spell d parameter)) pieces) :
    ∃ last : Region, last.Rests d ∧ Passage d .outside (chars d parameter pieces) last := by
  induction phrase with
  | @slot piece allowed =>
      obtain ⟨last, rests, passage⟩ := allowed
      refine ⟨last, rests, ?_⟩
      rw [chars_singleton]
      exact passage
  | words words =>
      rw [chars_singleton]
      exact words.isBare.guarded
  | before opening inner ih =>
      obtain ⟨last, rests, passage⟩ := ih
      rw [chars_text_cons]
      exact ⟨last, rests, (Passage.outside_of_bare opening.1.isBare).append passage⟩
  | after closing inner ih =>
      obtain ⟨last, rests, passage⟩ := ih
      rw [chars_append, chars_singleton]
      exact ⟨.outside, trivial,
        passage.append (Passage.of_bare rests closing.1.isBare closing.ne_nil)⟩
  | between glue left right ihLeft ihRight =>
      obtain ⟨middle, restsMiddle, first⟩ := ihLeft
      obtain ⟨last, rests, second⟩ := ihRight
      have words := Passage.of_bare restsMiddle glue.2.1.isBare glue.2.ne_nil
      rw [chars_append, chars_text_cons]
      exact ⟨last, rests, first.append (words.append second)⟩

theorem passage_pages {pages : List Piece} (numbered : ∀ page ∈ pages, IsPage page)
    {region : Region} (rests : region.Rests d) :
    ∃ last : Region, last.Rests d ∧ Passage d region (chars d parameter pages) last := by
  induction pages generalizing region with
  | nil => exact ⟨region, rests, .nil⟩
  | cons page others ih =>
      obtain ⟨word, n, closing, rfl⟩ := numbered page List.mem_cons_self
      have bare : IsBare (word ++ toString n) :=
        closing.1.isBare.append (IsNumeral.natText n).isBare
      have present : (word ++ toString n).toList ≠ [] := by
        rw [String.toList_append]
        exact List.append_ne_nil_of_left_ne_nil closing.ne_nil _
      have outside : Region.outside.Rests d := trivial
      obtain ⟨last, restsLast, passage⟩ :=
        ih (fun other mem => numbered other (List.mem_cons_of_mem _ mem)) outside
      rw [chars_text_cons]
      exact ⟨last, restsLast, (Passage.of_bare rests bare present).append passage⟩

/-- A statement that is drafted as a terminated phrase of guarded slots is sealed. -/
theorem sealed_spell {draft : Draft}
    (terminated : Terminated (fun piece => Guarded d (piece.spell d parameter)) draft.pieces) :
    Sealed d (draft.spell d parameter) := by
  obtain ⟨phrase, pages, isPhrase, numbered, pieces⟩ := terminated
  obtain ⟨middle, restsMiddle, first⟩ := isPhrase.passage
  obtain ⟨last, rests, second⟩ := passage_pages numbered restsMiddle
  refine ⟨_, last, ?_, first.append second, rests⟩
  rw [Draft.toList_spell, pieces, chars_append, chars_append, chars_singleton, spell]
  rfl

end Phrases

/-! ## Statements -/

namespace Query

variable {query : Query} {mode : Mode} {set : StatementSet}

/-- Every statement of a query is sealed. -/
theorem sealed_of_mem_statements (generated : query.statements d mode = .ok set)
    {statement : Statement} (mem : statement ∈ set) : Sealed d statement.text := by
  obtain ⟨drafts, made, spelled⟩ := Result.bind_eq_ok.1 generated
  rw [Result.pure_eq_ok] at spelled
  rw [← spelled] at mem
  obtain ⟨draft, inDrafts, rfl⟩ := List.mem_map.mp mem
  cases mode with
  | placeholders =>
      apply sealed_spell
      exact terminated_of_mem_drafts guarded_quoteName guarded_placeholder guarded_literal made
        inDrafts
  | inline =>
      apply sealed_spell
      exact terminated_of_mem_drafts guarded_quoteName (fun n => guarded_literal _) guarded_literal
        made inDrafts

/-- A reader that knows the marks of the dialect cuts the statements of a query where
they end: every statement ends outside of quotation marks, at its only semicolon
there. -/
theorem cut_display (generated : query.statements d mode = .ok set) :
    d.cut set.display = onLines (set.map Statement.text) ∧
      ∀ statement ∈ set, d.endings statement.text = [statement.text.length - 1] ∧
        d.regionAfter statement.text = .outside := by
  constructor
  · apply cut_lines
    intro text mem
    obtain ⟨statement, inSet, rfl⟩ := List.mem_map.mp mem
    exact sealed_of_mem_statements generated inSet
  · intro statement mem
    have closed := sealed_of_mem_statements generated mem
    exact ⟨closed.endings_eq, closed.regionAfter_eq⟩

/-- An upsert whose table and value try to end the statement. -/
def hostileQuery : Query :=
  (ofTable (Table.ofColumns "films\"; --" ["id"] ["title"])).upsert
    [[("title", .str "\\'; --")]]

theorem cut_display_hostileQuery :
    ∃ set, hostileQuery.statements .sqlite .inline = .ok set ∧
      set.map Statement.text =
        ["REPLACE INTO \"films\"\"; --\" (\"title\") VALUES ('\\\\''; --');",
          "SELECT last_insert_rowid() AS id;"] ∧
      Dialect.sqlite.cut set.display = onLines (set.map Statement.text) ∧
      ∀ statement ∈ set, Dialect.sqlite.endings statement.text = [statement.text.length - 1] ∧
        Dialect.sqlite.regionAfter statement.text = .outside := by
  obtain ⟨set, generated⟩ : ∃ set, hostileQuery.statements .sqlite .inline = .ok set := ⟨_, rfl⟩
  refine ⟨set, generated, ?_, cut_display generated⟩
  cases generated
  decide

end Query

end Polyquery
