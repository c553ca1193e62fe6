import Mathlib
import Polyquery.Proofs.Decimal.Characters
import Polyquery.Proofs.Sql.Cutting

/-!
# What stands outside of quotation marks

A walk follows the reader of a dialect through a text and says of which kind the
characters are that it meets outside of quotation marks.  Names and strings may hold
any characters, but written by a dialect they show the reader nothing but marks.
-/

namespace Polyquery

variable {d : Dialect} {kind : Char → Prop}

/-- Whether the next character stands outside of quotation marks, unless it is the mark
that takes a quotation up again. -/
def Region.isOutside : Region → Bool
  | outside | closing _ => true
  | _ => false

theorem Region.ends_eq (region : Region) (c : Char) :
    region.ends c = (region.isOutside && c = ';') := by
  cases region <;> rfl

/-- Reading leads from one region to another, and what stands outside of quotation marks
on the way is of a kind. -/
inductive Walk (d : Dialect) (kind : Char → Prop) : Region → List Char → Region → Prop
  | nil {region : Region} : Walk d kind region [] region
  | cons {region last : Region} {c : Char} {cs : List Char}
      (allowed : region.isOutside = true → kind c)
      (rest : Walk d kind (region.next d c) cs last) : Walk d kind region (c :: cs) last

namespace Walk

variable {first middle last region : Region} {chars more : List Char} {mark c : Char}

theorem single (allowed : first.isOutside = true → kind c) (next : first.next d c = last) :
    Walk d kind first [c] last := by
  apply cons allowed
  rw [next]
  exact .nil

theorem append (left : Walk d kind first chars middle) (right : Walk d kind middle more last) :
    Walk d kind first (chars ++ more) last := by
  induction left with
  | nil => exact right
  | cons allowed _ ih => exact .cons allowed (ih right)

theorem mono {wider : Char → Prop} (walk : Walk d kind first chars last)
    (implies : ∀ c, kind c → wider c) : Walk d wider first chars last := by
  induction walk with
  | nil => exact .nil
  | cons allowed _ ih => exact .cons (fun outside => implies _ (allowed outside)) ih

/-- A walk that meets no semicolon outside ends no statement. -/
theorem passage (walk : Walk d kind first chars last) (noEnd : ∀ c, kind c → c ≠ ';') :
    Passage d first chars last := by
  induction walk with
  | nil => exact .nil
  | @cons region last c cs allowed _ ih =>
      apply Passage.cons _ ih
      rw [Region.ends_eq]
      cases outside : region.isOutside with
      | false => rfl
      | true => exact decide_eq_false (noEnd c (allowed outside))

/-! ## Text without marks -/

theorem bare_cons (rests : region.Rests d) (allowed : kind c) (noMark : c ∉ d.marks)
    (rest : Walk d kind .outside chars last) : Walk d kind region (c :: chars) last := by
  apply cons fun _ => allowed
  rwa [rests.next_eq noMark]

theorem outside_of_bare (allowed : ∀ c ∈ chars, kind c) (bare : ∀ c ∈ chars, c ∉ d.marks) :
    Walk d kind .outside chars .outside := by
  induction chars with
  | nil => exact .nil
  | cons c cs ih =>
      have outside : Region.outside.Rests d := trivial
      apply bare_cons outside (allowed c List.mem_cons_self) (bare c List.mem_cons_self)
      exact ih (fun other mem => allowed other (List.mem_cons_of_mem c mem))
        fun other mem => bare other (List.mem_cons_of_mem c mem)

/-- Text without marks leads outside from where a quotation has ended. -/
theorem of_bare (rests : region.Rests d) (allowed : ∀ c ∈ chars, kind c)
    (bare : ∀ c ∈ chars, c ∉ d.marks) (some : chars ≠ []) :
    Walk d kind region chars .outside := by
  cases chars with
  | nil => exact absurd rfl some
  | cons c cs =>
      apply bare_cons rests (allowed c List.mem_cons_self) (bare c List.mem_cons_self)
      exact outside_of_bare (fun other mem => allowed other (List.mem_cons_of_mem c mem))
        fun other mem => bare other (List.mem_cons_of_mem c mem)

/-! ## Quotations -/

theorem ne_backslash_of_mem_marks (known : mark ∈ d.marks) : mark ≠ '\\' := by
  rintro rfl
  cases d <;> revert known <;> decide

/-- A character stays between marks unless it is a mark or takes the next one. -/
theorem stays (other : c ≠ mark) (keeps : c ≠ '\\' ∨ d.escapes mark = false) :
    Walk d kind (.inside mark) [c] (.inside mark) := by
  apply single nofun
  rcases keeps with noBackslash | noEscapes
  · simp [Region.next, noBackslash, other]
  · simp [Region.next, noEscapes, other]

/-- A backslash stays between marks with the character behind it. -/
theorem backslashed (noMark : '\\' ≠ mark) (other : c ≠ mark) :
    Walk d kind (.inside mark) ['\\', c] (.inside mark) := by
  cases escapes : d.escapes mark with
  | true =>
      have takesNext : Walk d kind (.inside mark) ['\\'] (.escaping mark) :=
        single (by rintro ⟨⟩) (by simp [Region.next, escapes])
      have taken : Walk d kind (.escaping mark) [c] (.inside mark) := single (by rintro ⟨⟩) rfl
      exact takesNext.append taken
  | false => exact (stays noMark (.inr escapes)).append (stays other (.inr escapes))

/-- A mark ends the quotation that it began. -/
theorem closes (known : mark ∈ d.marks) : Walk d kind (.inside mark) [mark] (.closing mark) := by
  apply single nofun
  simp [Region.next, ne_backslash_of_mem_marks known]

section Marks

variable (marks : ∀ mark ∈ d.marks, kind mark)

include marks

/-- A mark stays between marks with the same mark behind it. -/
theorem twice (known : mark ∈ d.marks) :
    Walk d kind (.inside mark) [mark, mark] (.inside mark) := by
  have reopens : Walk d kind (.closing mark) [mark] (.inside mark) :=
    single (fun _ => marks mark known) (if_pos rfl)
  exact (closes known).append reopens

theorem doubledChar (known : mark ∈ d.marks) (keeps : c ≠ '\\' ∨ d.escapes mark = false) :
    Walk d kind (.inside mark) (Sql.doubledChar mark c) (.inside mark) := by
  unfold Sql.doubledChar
  by_cases same : c = mark
  · rw [if_pos same, same]
    exact twice marks known
  · rw [if_neg same]
    exact stays same keeps

/-- Escapes stay between single marks, whether or not backslashes take characters. -/
theorem escapedChar (c : Char) :
    Walk d kind (.inside '\'') (Sql.escapedChar '\'' c) (.inside '\'') := by
  unfold Sql.escapedChar
  split_ifs with _ _ _ _ _ _ backslash
  · exact backslashed (by decide) (by decide)
  · exact backslashed (by decide) (by decide)
  · exact backslashed (by decide) (by decide)
  · exact backslashed (by decide) (by decide)
  · exact backslashed (by decide) (by decide)
  · exact backslashed (by decide) (by decide)
  · exact backslashed (by decide) (by decide)
  · exact doubledChar marks (by cases d <;> decide) (.inl backslash)

omit marks in
theorem flatMap {write : Char → List Char}
    (each : ∀ c, Walk d kind (.inside mark) (write c) (.inside mark)) :
    Walk d kind (.inside mark) (chars.flatMap write) (.inside mark) := by
  induction chars with
  | nil => exact .nil
  | cons c cs ih =>
      rw [List.flatMap_cons]
      exact (each c).append ih

/-- What stays between marks is read from the one mark to the other. -/
theorem enclosed {text : String} (known : mark ∈ d.marks)
    (inner : Walk d kind (.inside mark) text.toList (.inside mark)) :
    Walk d kind .outside (Sql.enclosed mark text).toList (.closing mark) := by
  have opens : Walk d kind .outside [mark] (.inside mark) :=
    single (fun _ => marks mark known) (if_pos known)
  rw [Sql.enclosed, String.toList_append, String.toList_append, String.toList_singleton]
  exact (opens.append inner).append (closes known)

end Marks

end Walk

/-! ## Names and literals -/

/-- A text that begins outside, ends where a quotation may have ended, and shows nothing
but characters of a kind. -/
def Shows (d : Dialect) (kind : Char → Prop) (text : String) : Prop :=
  ∃ last : Region, last.Rests d ∧ Walk d kind .outside text.toList last

theorem Shows.mono {wider : Char → Prop} {text : String} (shows : Shows d kind text)
    (implies : ∀ c, kind c → wider c) : Shows d wider text := by
  obtain ⟨last, rests, walk⟩ := shows
  exact ⟨last, rests, walk.mono implies⟩

/-- The characters that names and literals show: marks and the characters of numbers. -/
def Shown (d : Dialect) (c : Char) : Prop :=
  c ∈ d.marks ∨ isNumeral c = true

theorem shows_quoteName (name : String) : Shows d (Shown d) (d.quoteName name) := by
  have known : d.nameMark ∈ d.marks := by cases d <;> decide
  have noEscapes : d.escapes d.nameMark = false := by cases d <;> decide
  refine ⟨.closing d.nameMark, known, Walk.enclosed (fun _ => .inl) known ?_⟩
  rw [Sql.doubled, String.toList_ofList]
  exact Walk.flatMap fun c => Walk.doubledChar (fun _ => .inl) known (.inr noEscapes)

theorem shows_quoteText (text : String) : Shows d (Shown d) (d.quoteText text) := by
  have known : '\'' ∈ d.marks := by cases d <;> decide
  have escaped : Walk d (Shown d) (.inside '\'') (Sql.escaped '\'' text).toList
      (.inside '\'') := by
    rw [Sql.escaped, String.toList_ofList]
    exact Walk.flatMap (Walk.escapedChar fun _ => .inl)
  cases d with
  | mysql => exact ⟨.closing '\'', known, Walk.enclosed (fun _ => .inl) known escaped⟩
  | sqlite => exact ⟨.closing '\'', known, Walk.enclosed (fun _ => .inl) known escaped⟩
  | postgres =>
      refine ⟨.closing '\'', known, Walk.enclosed (fun _ => .inl) known ?_⟩
      rw [Sql.doubled, String.toList_ofList]
      exact Walk.flatMap fun c => Walk.doubledChar (fun _ => .inl) known (.inr rfl)

theorem IsNumeral.shows {text : String} (numeral : IsNumeral text) :
    Shows d (Shown d) text := by
  have bare : ∀ c ∈ text.toList, c ∉ d.marks :=
    fun c mem => d.not_mem_marks (numeral c mem) rfl rfl rfl
  exact ⟨.outside, trivial, Walk.outside_of_bare (fun c mem => .inr (numeral c mem)) bare⟩

/-- Whatever a value is, its literal shows nothing but marks and a number. -/
theorem shows_literal (value : Value) : Shows d (Shown d) (d.literal value) := by
  cases value with
  | null =>
      have letters : IsNumeral "NULL" := .of_all (by decide)
      exact letters.shows
  | bool b => exact IsNumeral.shows (.of_all (by cases d <;> cases b <;> decide))
  | int n => exact IsNumeral.shows (.intText n)
  | float x => exact IsNumeral.shows (Decimal.Layout.isNumeral_plain_write x)
  | str s => exact shows_quoteText s
  | date t => exact shows_quoteText t.display

end Polyquery
