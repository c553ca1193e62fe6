import Mathlib.Data.List.Basic
import Polyquery.Sql.Dialect

/-!
# Reading quotations back

A quotation ends at the first mark that is not doubled, so it can be read without knowing
where it ends.  Where backslashes are escapes, they are taken with the character behind
them, whatever that is.  What has been quoted is read back in front of any text that does
not go on with the mark; for escaped texts this is so with every mark but the backslash.
-/

namespace Polyquery.Sql

/-- The characters that are written as a backslash and a letter, with their letters. -/
def escapeLetters : List (Char × Char) :=
  [('0', '\x00'), ('b', '\x08'), ('t', '\t'), ('Z', '\x1a'), ('n', '\n'), ('r', '\r'),
    ('\\', '\\')]

/-- Whether a character is written as a backslash and a letter. -/
def IsEscaped (c : Char) : Prop :=
  c ∈ escapeLetters.map Prod.snd

instance (c : Char) : Decidable (IsEscaped c) :=
  inferInstanceAs (Decidable (c ∈ escapeLetters.map Prod.snd))

/-- What a backslash and the character behind it stand for.  Before the signs of patterns the
backslash is kept; before any other character it says nothing. -/
def unescaped (c : Char) : List Char :=
  match escapeLetters.lookup c with
  | some meant => [meant]
  | none => if c = '%' || c = '_' then ['\\', c] else [c]

/-- Put characters in front of the content that has been read. -/
def prepend (content : List Char) (read : List Char × List Char) : List Char × List Char :=
  (content ++ read.1, read.2)

/-- The content of a quotation behind its first mark, and what follows its last mark; none if it
does not end. -/
def readContent? (escapes : Bool) (mark : Char) : List Char → Option (List Char × List Char)
  | [] => none
  | c :: rest =>
    if escapes && c = '\\' then
      match rest with
      | [] => none
      | next :: rest => (readContent? escapes mark rest).map (prepend (unescaped next))
    else if c = mark then
      match rest with
      | [] => some ([], [])
      | next :: others =>
        if next = mark then (readContent? escapes mark others).map (prepend [mark])
        else some ([], next :: others)
    else (readContent? escapes mark rest).map (prepend [c])

/-- The content of the quotation at the front of a text, and what follows it. -/
def readQuoted? (escapes : Bool) (mark : Char) (text : String) : Option (String × String) :=
  match text.toList with
  | [] => none
  | first :: rest =>
    if first = mark then
      (readContent? escapes mark rest).map (Prod.map String.ofList String.ofList)
    else none

variable {escapes : Bool} {mark c : Char} {content rest : List Char}

/-! ## Escapes -/

theorem escapedChar_of_mem {letter : Char} (listed : (letter, c) ∈ escapeLetters) :
    escapedChar mark c = ['\\', letter] := by
  simp only [escapeLetters, List.mem_cons, List.not_mem_nil, Prod.mk.injEq, or_false] at listed
  rcases listed with ⟨rfl, rfl⟩ | ⟨rfl, rfl⟩ | ⟨rfl, rfl⟩ | ⟨rfl, rfl⟩ | ⟨rfl, rfl⟩ | ⟨rfl, rfl⟩ |
    ⟨rfl, rfl⟩
  all_goals rfl

theorem escapedChar_of_isEscaped (isEscaped : IsEscaped c) :
    ∃ letter, (letter, c) ∈ escapeLetters ∧ ∀ mark, escapedChar mark c = ['\\', letter] := by
  obtain ⟨⟨letter, _⟩, listed, rfl⟩ := List.mem_map.mp isEscaped
  exact ⟨letter, listed, fun mark => escapedChar_of_mem listed⟩

theorem escapedChar_of_not_isEscaped (plain : ¬ IsEscaped c) :
    escapedChar mark c = doubledChar mark c := by
  simp only [IsEscaped, escapeLetters, List.map_cons, List.map_nil, List.mem_cons,
    List.not_mem_nil, or_false, not_or] at plain
  obtain ⟨nul, backspace, tab, substitute, lineFeed, carriageReturn, backslash⟩ := plain
  simp [escapedChar, nul, backspace, tab, substitute, lineFeed, carriageReturn, backslash]

/-- A mark that is escaped is never doubled. -/
theorem escapedChar_of_isEscaped_mark (plain : ¬ IsEscaped c) (isEscaped : IsEscaped mark) :
    escapedChar mark c = [c] := by
  have other : c ≠ mark := by
    rintro rfl
    exact plain isEscaped
  rw [escapedChar_of_not_isEscaped plain, doubledChar, if_neg other]

/-! ## Characters -/

/-- A mark ends a quotation, unless it comes again. -/
theorem readContent?_mark (keeps : mark ≠ '\\' ∨ escapes = false) (ends : rest.head? ≠ some mark) :
    readContent? escapes mark (mark :: rest) = some ([], rest) := by
  have noEscape : (escapes && decide (mark = '\\')) = false := by
    rcases keeps with other | off
    · simp [other]
    · simp [off]
  cases rest with
  | nil => simp [readContent?, noEscape]
  | cons next others =>
      have different : next ≠ mark := by simpa using ends
      simp [readContent?, noEscape, different]

theorem readContent?_doubledChar (keeps : c ≠ '\\' ∨ escapes = false) :
    readContent? escapes mark (doubledChar mark c ++ rest) =
      (readContent? escapes mark rest).map (prepend [c]) := by
  have noEscape : (escapes && decide (c = '\\')) = false := by
    rcases keeps with other | off
    · simp [other]
    · simp [off]
  unfold doubledChar
  by_cases same : c = mark
  · subst same
    simp [readContent?, noEscape]
  · cases rest <;> simp [readContent?, noEscape, same]

/-- An escape is read back whatever the mark is. -/
theorem readContent?_escapedChar :
    readContent? true mark (escapedChar mark c ++ rest) =
      (readContent? true mark rest).map (prepend [c]) := by
  by_cases isEscaped : IsEscaped c
  · obtain ⟨letter, listed, written⟩ := escapedChar_of_isEscaped isEscaped
    have meant : ∀ pair ∈ escapeLetters, unescaped pair.1 = [pair.2] := by decide
    rw [written]
    simp [readContent?, meant _ listed]
  · have other : c ≠ '\\' := by
      rintro rfl
      exact isEscaped (by decide)
    rw [escapedChar_of_not_isEscaped isEscaped]
    exact readContent?_doubledChar (.inl other)

/-! ## Texts -/

/-- If the writing of every character is read back, so is that of every text. -/
theorem readContent?_flatMap {write : Char → List Char}
    (each : ∀ c rest, readContent? escapes mark (write c ++ rest) =
      (readContent? escapes mark rest).map (prepend [c]))
    (keeps : mark ≠ '\\' ∨ escapes = false) (ends : rest.head? ≠ some mark) :
    readContent? escapes mark (content.flatMap write ++ mark :: rest) = some (content, rest) := by
  induction content with
  | nil => exact readContent?_mark keeps ends
  | cons c others ih =>
      rw [List.flatMap_cons, List.append_assoc, each, ih]
      rfl

theorem readQuoted?_enclosed {written text more : String}
    (read : readContent? escapes mark (written.toList ++ mark :: more.toList) =
      some (text.toList, more.toList)) :
    readQuoted? escapes mark (enclosed mark written ++ more) = some (text, more) := by
  have spelled : (enclosed mark written ++ more).toList =
      mark :: (written.toList ++ mark :: more.toList) := by
    simp [enclosed]
  simp [readQuoted?, spelled, read]

theorem readQuoted?_doubled (mark : Char) (text : String) {more : String}
    (ends : more.toList.head? ≠ some mark) :
    readQuoted? false mark (enclosed mark (doubled mark text) ++ more) = some (text, more) := by
  apply readQuoted?_enclosed
  rw [doubled, String.toList_ofList]
  exact readContent?_flatMap (fun c rest => readContent?_doubledChar (.inr rfl)) (.inr rfl) ends

theorem readQuoted?_escaped (text : String) {more : String} (other : mark ≠ '\\')
    (ends : more.toList.head? ≠ some mark) :
    readQuoted? true mark (enclosed mark (escaped mark text) ++ more) = some (text, more) := by
  apply readQuoted?_enclosed
  rw [escaped, String.toList_ofList]
  exact readContent?_flatMap (fun c rest => readContent?_escapedChar) (.inl other) ends

/-! ## Different texts -/

/-- Escapes take precedence over doubling, so that all marks that are escaped are alike. -/
theorem escaped_of_isEscaped {other : Char} (isEscaped : IsEscaped mark)
    (otherEscaped : IsEscaped other) (text : String) : escaped mark text = escaped other text := by
  have same (c : Char) : escapedChar mark c = escapedChar other c := by
    by_cases inside : IsEscaped c
    · obtain ⟨letter, -, written⟩ := escapedChar_of_isEscaped inside
      rw [written, written]
    · rw [escapedChar_of_isEscaped_mark inside isEscaped,
        escapedChar_of_isEscaped_mark inside otherEscaped]
  simp only [escaped, funext same]

theorem escaped_injective (mark : Char) : Function.Injective (escaped mark) := by
  have back {mark : Char} (other : mark ≠ '\\') : Function.Injective (escaped mark) := by
    intro first second same
    have read (text : String) := @readQuoted?_escaped mark text "" other nofun
    have both := (read first).symm.trans ((congrArg _ (by rw [same])).trans (read second))
    exact (Prod.mk.inj (Option.some.inj both)).1
  by_cases backslash : mark = '\\'
  · have alike := @escaped_of_isEscaped '\\' '\n' (by decide) (by decide)
    intro first second same
    rw [backslash, alike, alike] at same
    exact back (by decide) same
  · exact back backslash

/-- Every string of MySQL and of PostgreSQL and every name is read back from the front of a text
that does not go on with its mark, by the rules of its dialect.  Escaped texts differ if the
texts do, whatever the mark is. -/
theorem quotations_read_back :
    (∀ text more : String, more.toList.head? ≠ some '\'' →
      readQuoted? true '\'' (Dialect.mysql.quoteText text ++ more) = some (text, more)) ∧
    (∀ text more : String, more.toList.head? ≠ some '\'' →
      readQuoted? false '\'' (Dialect.postgres.quoteText text ++ more) = some (text, more)) ∧
    (∀ (mark : Char) (name more : String), more.toList.head? ≠ some mark →
      readQuoted? false mark (quoteName mark name ++ more) = some (name, more)) ∧
    ∀ mark : Char, Function.Injective (escaped mark) := by
  refine ⟨fun text more ends => ?mysql, fun text more ends => ?postgres,
    fun mark name more ends => ?names, escaped_injective⟩
  case mysql => exact readQuoted?_escaped text (by decide) ends
  case postgres => exact readQuoted?_doubled '\'' text ends
  case names => exact readQuoted?_doubled mark name ends

/-- A text that ends with a backslash and a quotation mark, in front of a comparison. -/
theorem quotations_read_back_backslash :
    Dialect.mysql.quoteText "50%\\'" = "'50%\\\\'''" ∧
    readQuoted? true '\'' "'50%\\\\''' = 1" = some ("50%\\'", " = 1") ∧
    readQuoted? false '\'' "'50%\\''' = 1" = some ("50%\\'", " = 1") ∧
    readQuoted? false '\\' "\\a\\\\b\\ = 1" = some ("a\\b", " = 1") ∧
    escaped '\n' "\n" ≠ escaped '\n' "n" := by
  obtain ⟨mysql, postgres, names, different⟩ := quotations_read_back
  have ends (mark : Char) (other : mark ≠ ' ') : " = 1".toList.head? ≠ some mark := by
    simpa using other.symm
  exact ⟨by decide, mysql "50%\\'" " = 1" (ends _ (by decide)),
    postgres "50%\\'" " = 1" (ends _ (by decide)),
    names '\\' "a\\b" " = 1" (ends _ (by decide)), (different '\n').ne (by decide)⟩

end Polyquery.Sql
