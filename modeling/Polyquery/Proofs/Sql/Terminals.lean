import Polyquery.Proofs.Json.Number
import Polyquery.Proofs.Sql.Quotation
import Polyquery.Sql.Token

/-!
# Terminals of statements

A server cuts the text of a statement into spellings before it looks at their order.
Quotation marks are read by the rules of its dialect; outside of them a spelling is a
word, a number or a mark, and as long as possible.  What the grammar of statements sees
of a spelling is its terminal.
-/

namespace Polyquery.Sql

/-! ## Terminals -/

/-- A kind of spellings that the grammar of statements does not tell apart. -/
inductive Terminal where
  | keyword (k : Keyword)
  /-- A name between quotation marks. -/
  | name
  | string
  /-- Digits. -/
  | whole
  /-- Digits with a point among them. -/
  | decimal
  | placeholder
  | comparison
  | star
  | comma
  | dot
  | minus
  | opening
  | closing
  | semicolon
deriving DecidableEq

/-- The characters of numbers: digits and the point. -/
def isNumberPart (c : Char) : Bool :=
  c.isDigit || c = '.'

namespace Terminal

/-- The spellings that are no words. -/
def marks : List (String × Terminal) :=
  [("?", placeholder), ("=", comparison), ("<>", comparison), ("<", comparison),
    ("<=", comparison), (">", comparison), (">=", comparison), ("*", star), (",", comma),
    (".", dot), ("-", minus), ("(", opening), (")", closing), (";", semicolon)]

/-- The terminal of digits with points among them, of which a number has at most one. -/
def ofDigits? (spelling : List Char) : Option Terminal :=
  if spelling.all Char.isDigit then some whole
  else if spelling.all isNumberPart && spelling.count '.' = 1 then some decimal
  else none

/-- The terminal of a spelling; none for a word without a meaning in statements. -/
def ofSpelling? (d : Dialect) (spelling : List Char) : Option Terminal :=
  match spelling with
  | [] => none
  | first :: _ =>
    if first = d.nameMark then some name
    else if first = '\'' then some string
    else if first.isDigit then ofDigits? spelling
    else if first.isAlpha then (Keyword.ofText? (String.ofList spelling)).map keyword
    else marks.lookup (String.ofList spelling)

end Terminal

/-! ## Spellings -/

/-- The pairs of marks that are spelled together.  Two dashes would begin a comment, which
no statement has. -/
def pairs : List (Char × Char) :=
  [('<', '='), ('<', '>'), ('>', '='), ('-', '-')]

/-- Whether a character outside of quotation marks goes on with the spelling in front of
it. -/
def joins (current : List Char) (c : Char) : Bool :=
  current.getLast?.any isWordPart && isWordPart c ||
    current.head?.any Char.isDigit && isNumberPart c ||
    match current with
    | [first] => pairs.contains (first, c)
    | _ => false

/-- The marks that are spelled alone whatever stands around them, and the blank. -/
def isAlone (c : Char) : Bool :=
  c = ' ' || c = ',' || c = '(' || c = ')' || c = ';'

/-- How far a text is cut into spellings. -/
structure Splitter where
  region : Region
  /-- The spelling that the next character may go on with. -/
  current : List Char
  /-- The spellings in front of it. -/
  done : List (List Char)

namespace Splitter

def initial : Splitter := ⟨.outside, [], []⟩

/-- Whether a character belongs to the spelling in front of it. -/
def continues (splitter : Splitter) (c : Char) : Bool :=
  match splitter.region with
  | .inside _ | .escaping _ => true
  | .closing mark => c = mark
  | .outside => joins splitter.current c

/-- Take one character. -/
def step (d : Dialect) (splitter : Splitter) (c : Char) : Splitter :=
  if splitter.continues c then
    ⟨splitter.region.next d c, splitter.current ++ [c], splitter.done⟩
  else ⟨splitter.region.next d c, [c], splitter.done ++ [splitter.current]⟩

/-- Take some characters. -/
def run (d : Dialect) (splitter : Splitter) (chars : List Char) : Splitter :=
  chars.foldl (step d) splitter

/-- The spellings so far, blanks apart. -/
def spellings (splitter : Splitter) : List (List Char) :=
  (splitter.done ++ [splitter.current]).filter fun spelling => !spelling.all isSpace

end Splitter

/-- A text that ends outside of quotation marks reads as the terminals of its spellings. -/
def Reads (d : Dialect) (chars : List Char) (terminals : List Terminal) : Prop :=
  let splitter := Splitter.initial.run d chars
  splitter.region.Rests d ∧
    splitter.spellings.map (Terminal.ofSpelling? d) = terminals.map some

instance {d : Dialect} (region : Region) : Decidable (region.Rests d) :=
  match region with
  | .outside => .isTrue trivial
  | .closing mark => inferInstanceAs (Decidable (mark ∈ d.marks))
  | .inside _ | .escaping _ => .isFalse id

instance (d : Dialect) (chars : List Char) (terminals : List Terminal) :
    Decidable (Reads d chars terminals) :=
  inferInstanceAs (Decidable (_ ∧ _))

/-- A text reads as one list of terminals at most. -/
theorem Reads.unique {d : Dialect} {chars : List Char} {terminals others : List Terminal}
    (reads : Reads d chars terminals) (also : Reads d chars others) : terminals = others :=
  List.map_injective_iff.mpr (Option.some_injective _) (reads.2.symm.trans also.2)

/-! ## Texts one behind the other -/

namespace Splitter

variable {d : Dialect} {splitter : Splitter} {chars more : List Char} {c : Char}

theorem run_append : splitter.run d (chars ++ more) = (splitter.run d chars).run d more :=
  List.foldl_append

/-- With spellings in front of those that are done. -/
def behind (done : List (List Char)) (splitter : Splitter) : Splitter :=
  { splitter with done := done ++ splitter.done }

theorem step_behind (done : List (List Char)) :
    (splitter.behind done).step d c = (splitter.step d c).behind done := by
  have same : (splitter.behind done).continues c = splitter.continues c := rfl
  rw [step, step, same]
  cases splitter.continues c with
  | true => rfl
  | false => simp [behind]

theorem run_behind (done : List (List Char)) :
    (splitter.behind done).run d chars = (splitter.run d chars).behind done := by
  induction chars generalizing splitter with
  | nil => rfl
  | cons c chars ih =>
      change ((splitter.behind done).step d c).run d chars = _
      rw [step_behind, ih]
      rfl

theorem spellings_behind (done : List (List Char)) :
    (splitter.behind done).spellings =
      (done.filter fun spelling => !spelling.all isSpace) ++ splitter.spellings := by
  rw [spellings, behind, List.append_assoc, List.filter_append]
  rfl

/-- A character that does not go on with a spelling begins the next one. -/
theorem step_of_not_continues (begins : splitter.continues c = false) :
    splitter.step d c =
      behind (splitter.done ++ [splitter.current]) ⟨Region.enter d c, [c], []⟩ := by
  obtain ⟨region, current, done⟩ := splitter
  have next : region.next d c = Region.enter d c := by
    cases region with
    | outside => rfl
    | closing mark => exact if_neg (of_decide_eq_false begins)
    | inside mark => cases begins
    | escaping mark => cases begins
  rw [step, begins, if_neg Bool.false_ne_true, behind, List.append_nil]
  exact congrArg (Splitter.mk · [c] _) next

theorem not_continues_initial : initial.continues c = false := by
  simp [continues, initial, joins]

/-- A text behind another one is split on its own if its first character begins a
spelling. -/
theorem run_initial_append (begins : (initial.run d chars).continues c = false) :
    ∃ splitter : Splitter, initial.run d (c :: more) = splitter.behind [[]] ∧
      initial.run d (chars ++ c :: more) =
        splitter.behind ((initial.run d chars).done ++ [(initial.run d chars).current]) := by
  refine ⟨run d ⟨Region.enter d c, [c], []⟩ more, ?_, ?_⟩
  · rw [← run_behind]
    exact congrArg (run d · more) (step_of_not_continues not_continues_initial)
  · rw [run_append, ← run_behind]
    exact congrArg (run d · more) (step_of_not_continues begins)

/-! ### Marks that are spelled alone -/

theorem isAlone_cases {c : Char} (alone : isAlone c = true) :
    c = ' ' ∨ c = ',' ∨ c = '(' ∨ c = ')' ∨ c = ';' := by
  simpa [isAlone, or_assoc] using alone

theorem joins_eq_false_of_isAlone (alone : isAlone c = true) (current : List Char) :
    joins current c = false := by
  have noPart : isWordPart c = false := by
    rcases isAlone_cases alone with rfl | rfl | rfl | rfl | rfl <;> rfl
  have noDigit : isNumberPart c = false := by
    rcases isAlone_cases alone with rfl | rfl | rfl | rfl | rfl <;> rfl
  have noPair (first : Char) : pairs.contains (first, c) = false := by
    rcases isAlone_cases alone with rfl | rfl | rfl | rfl | rfl <;> simp [pairs]
  unfold joins
  rw [noPart, noDigit, Bool.and_false, Bool.and_false, Bool.false_or, Bool.false_or]
  split
  · exact noPair _
  · rfl

theorem joins_singleton_of_isAlone (alone : isAlone c = true) (next : Char) :
    joins [c] next = false := by
  rcases isAlone_cases alone with rfl | rfl | rfl | rfl | rfl <;>
    simp [joins, pairs, isWordPart]

theorem not_mem_marks_of_isAlone (alone : isAlone c = true) : c ∉ d.marks :=
  d.not_mem_marks alone rfl rfl rfl

theorem not_continues_of_isAlone (rests : splitter.region.Rests d) (alone : isAlone c = true) :
    splitter.continues c = false := by
  obtain ⟨region, current, done⟩ := splitter
  cases region with
  | outside => exact joins_eq_false_of_isAlone alone current
  | closing mark =>
      have noMark : c ∉ d.marks := not_mem_marks_of_isAlone alone
      exact decide_eq_false fun same => noMark (same ▸ rests)
  | inside mark => exact rests.elim
  | escaping mark => exact rests.elim

/-- Nothing goes on with a mark that is spelled alone. -/
theorem not_continues_step_of_isAlone (alone : isAlone c = true)
    (rests : (splitter.step d c).region.Rests d) (next : Char) :
    (splitter.step d c).continues next = false := by
  have noMark : c ∉ d.marks := not_mem_marks_of_isAlone alone
  have region : (splitter.step d c).region = splitter.region.next d c := by
    rw [step]
    split <;> rfl
  have begins : splitter.continues c = false := by
    rw [region] at rests
    obtain ⟨before, current, done⟩ := splitter
    cases before with
    | outside => exact joins_eq_false_of_isAlone alone current
    | closing mark =>
        refine decide_eq_false fun same => ?_
        simp [same, Region.next, Region.Rests] at rests
    | escaping mark => exact rests.elim
    | inside mark =>
        rw [Region.next] at rests
        split_ifs at rests with _ same
        · exact rests.elim
        · exact absurd (same ▸ rests) noMark
        · exact rests.elim
  rw [step_of_not_continues begins]
  change continues ⟨Region.enter d c, [c], _⟩ next = false
  rw [Region.enter_eq_outside noMark]
  exact joins_singleton_of_isAlone alone next

end Splitter

namespace Reads

variable {d : Dialect} {chars more : List Char} {terminals others : List Terminal}

open Splitter

/-- Texts read one behind the other if the second one begins a spelling. -/
theorem append_of_begins (first : Reads d chars terminals) (second : Reads d more others)
    (begins : ∀ c ∈ more.head?, (initial.run d chars).continues c = false) :
    Reads d (chars ++ more) (terminals ++ others) := by
  cases more with
  | nil =>
      have none : others = [] := second.unique ⟨trivial, rfl⟩
      rw [none, List.append_nil, List.append_nil]
      exact first
  | cons c more =>
      obtain ⟨splitter, alone, whole⟩ := run_initial_append (begins c rfl)
      obtain ⟨firstRests, firstRead⟩ := first
      obtain ⟨rests, read⟩ := second
      rw [alone] at rests read
      refine ⟨by rw [whole]; exact rests, ?_⟩
      rw [spellings_behind] at read
      rw [whole, spellings_behind, List.map_append, List.map_append, ← firstRead, ← read]
      rfl

/-- Texts read one behind the other if a mark that is spelled alone parts them, or nothing
follows. -/
theorem append (first : Reads d chars terminals) (second : Reads d more others)
    (apart : chars.getLast?.any isAlone = true ∨ more.head?.all isAlone = true) :
    Reads d (chars ++ more) (terminals ++ others) := by
  refine first.append_of_begins second fun c mem => ?_
  rcases apart with last | next
  · obtain ⟨mark, isLast, alone⟩ := (Option.any_eq_true _ _).mp last
    obtain ⟨front, rfl⟩ := List.getLast?_eq_some_iff.mp isLast
    have rests := first.1
    rw [run_append] at rests ⊢
    exact not_continues_step_of_isAlone alone rests c
  · rw [mem, Option.all_some] at next
    exact not_continues_of_isAlone first.1 next

end Reads

end Polyquery.Sql
