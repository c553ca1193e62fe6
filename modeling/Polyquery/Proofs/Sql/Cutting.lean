import Polyquery.Sql.Statement

/-!
# Cutting text into statements

A server finds the end of a statement by the semicolons that stand outside of
quotation marks.  A reader that knows the marks of a dialect goes through a text
character by character; whether a semicolon ends a statement depends on the region
it has reached.  A passage is a stretch of text in which no statement ends.
-/

namespace Polyquery

/-- Where the reader of a text is. -/
inductive Region where
  /-- Outside of quotation marks. -/
  | outside
  /-- Between quotation marks. -/
  | inside (mark : Char)
  /-- Between quotation marks, behind a backslash that takes the next character. -/
  | escaping (mark : Char)
  /-- Behind a mark that ends the quotation unless the same mark follows. -/
  | closing (mark : Char)
deriving DecidableEq

/-- The marks between which a dialect quotes names and strings. -/
def Dialect.marks : Dialect → List Char
  | mysql => ['`', '\'']
  | sqlite => ['"', '\'']
  | postgres => ['"', '\'']

theorem Dialect.forall_mem_marks {property : Char → Prop} (d : Dialect) (accent : property '`')
    (double : property '"') (single : property '\'') : ∀ mark ∈ d.marks, property mark := by
  cases d <;> simp [marks, accent, double, single]

/-- A kind of characters without quotation marks. -/
theorem Dialect.not_mem_marks {kind : Char → Bool} {c : Char} (d : Dialect)
    (belongs : kind c = true) (accent : kind '`' = false) (double : kind '"' = false)
    (single : kind '\'' = false) : c ∉ d.marks := by
  intro mark
  have none : ∀ mark ∈ d.marks, kind mark = false := d.forall_mem_marks accent double single
  rw [none c mark] at belongs
  contradiction

/-- Whether a backslash between marks takes the next character. -/
def Dialect.escapes : Dialect → (mark : Char) → Bool
  | mysql, mark => mark = '\''
  | _, _ => false

namespace Region

variable (d : Dialect)

/-- The region behind a character that stands outside. -/
def enter (c : Char) : Region :=
  if c ∈ d.marks then inside c else outside

/-- The region behind a character. -/
def next : Region → Char → Region
  | outside, c => enter d c
  | inside mark, c =>
    if c = '\\' && d.escapes mark then escaping mark
    else if c = mark then closing mark
    else inside mark
  | escaping mark, _ => inside mark
  | closing mark, c => if c = mark then inside mark else enter d c

/-- Whether a character ends a statement. -/
def ends : Region → Char → Bool
  | outside, c => c = ';'
  | closing _, c => c = ';'
  | _, _ => false

/-- The region behind a text. -/
def after (region : Region) (chars : List Char) : Region :=
  chars.foldl (next d) region

/-- The places at which statements end, where the text begins at a place. -/
def endings : Region → (place : Nat) → List Char → List Nat
  | _, _, [] => []
  | region, place, c :: cs =>
    if region.ends c then place :: endings (region.next d c) (place + 1) cs
    else endings (region.next d c) (place + 1) cs

/-- Cut a text behind every end of a statement.  `read` has been read since the last
cut. -/
def cut : Region → (read : List Char) → List Char → List (List Char)
  | _, [], [] => []
  | _, read, [] => [read]
  | region, read, c :: cs =>
    if region.ends c then (read ++ [c]) :: cut (region.next d c) [] cs
    else cut (region.next d c) (read ++ [c]) cs

end Region

namespace Dialect

/-- The region that a text ends in. -/
def regionAfter (d : Dialect) (text : String) : Region :=
  Region.outside.after d text.toList

/-- The places of the semicolons that end a statement. -/
def endings (d : Dialect) (text : String) : List Nat :=
  Region.outside.endings d 0 text.toList

/-- A text, cut behind every semicolon that ends a statement. -/
def cut (d : Dialect) (text : String) : List String :=
  (Region.outside.cut d [] text.toList).map String.ofList

end Dialect

/-! ## Passages -/

/-- Reading leads from one region to another, and no statement ends on the way. -/
inductive Passage (d : Dialect) : Region → List Char → Region → Prop
  | nil {region : Region} : Passage d region [] region
  | cons {region last : Region} {c : Char} {cs : List Char} (goesOn : region.ends c = false)
      (rest : Passage d (region.next d c) cs last) : Passage d region (c :: cs) last

namespace Passage

variable {d : Dialect} {first middle last : Region} {chars more : List Char} {c : Char}

theorem single (goesOn : first.ends c = false) (next : first.next d c = last) :
    Passage d first [c] last := by
  apply cons goesOn
  rw [next]
  exact .nil

theorem append (left : Passage d first chars middle) (right : Passage d middle more last) :
    Passage d first (chars ++ more) last := by
  induction left with
  | nil => exact right
  | cons goesOn _ ih => exact .cons goesOn (ih right)

theorem after_eq (passage : Passage d first chars last) : first.after d chars = last := by
  induction passage with
  | nil => rfl
  | cons _ _ ih => exact ih

theorem endings_append (passage : Passage d first chars last) (place : Nat) :
    first.endings d place (chars ++ more) = last.endings d (place + chars.length) more := by
  induction passage generalizing place with
  | nil => rfl
  | cons goesOn _ ih =>
      rw [List.cons_append, Region.endings, goesOn, if_neg Bool.false_ne_true, ih,
        List.length_cons, Nat.add_right_comm, Nat.add_assoc]

theorem cut_append (passage : Passage d first chars last) (read : List Char) :
    first.cut d read (chars ++ more) = last.cut d (read ++ chars) more := by
  induction passage generalizing read with
  | nil => rw [List.nil_append, List.append_nil]
  | cons goesOn _ ih =>
      rw [List.cons_append, Region.cut, goesOn, if_neg Bool.false_ne_true, ih, List.append_assoc,
        List.singleton_append]

end Passage

namespace Region

/-- Outside, or right behind a closing mark: where the next statement may begin. -/
def Rests (d : Dialect) : Region → Prop
  | outside => True
  | closing mark => mark ∈ d.marks
  | _ => False

variable {d : Dialect} {region : Region}

theorem semicolon_not_mem_marks : ';' ∉ d.marks := by
  cases d <;> decide

theorem enter_eq_outside {c : Char} (noMark : c ∉ d.marks) : enter d c = outside :=
  if_neg noMark

/-- A character that is no mark leads outside. -/
theorem Rests.next_eq {c : Char} (rests : region.Rests d) (noMark : c ∉ d.marks) :
    region.next d c = outside := by
  cases region with
  | outside => exact enter_eq_outside noMark
  | closing mark =>
      have other : c ≠ mark := fun same => noMark (same ▸ rests)
      rw [next, if_neg other, enter_eq_outside noMark]
  | inside mark => exact rests.elim
  | escaping mark => exact rests.elim

theorem Rests.ends_eq {c : Char} (rests : region.Rests d) : region.ends c = (c = ';' : Bool) := by
  cases region with
  | outside => rfl
  | closing mark => rfl
  | inside mark => exact rests.elim
  | escaping mark => exact rests.elim

end Region

/-! ## Sealed texts -/

/-- A text whose only end of a statement is its last character. -/
def Sealed (d : Dialect) (text : String) : Prop :=
  ∃ body last, text.toList = body ++ [';'] ∧ Passage d .outside body last ∧ last.Rests d

namespace Sealed

variable {d : Dialect} {text : String}

theorem regionAfter_eq (closed : Sealed d text) : d.regionAfter text = .outside := by
  obtain ⟨body, last, written, passage, rests⟩ := closed
  rw [Dialect.regionAfter, Region.after, written, List.foldl_append]
  have afterBody := passage.after_eq
  rw [Region.after] at afterBody
  rw [afterBody]
  exact rests.next_eq Region.semicolon_not_mem_marks

theorem endings_eq (closed : Sealed d text) : d.endings text = [text.length - 1] := by
  obtain ⟨body, last, written, passage, rests⟩ := closed
  have size : text.length = body.length + 1 := by
    rw [← String.length_toList, written, List.length_append, List.length_singleton]
  rw [Dialect.endings, written, passage.endings_append, Region.endings, rests.ends_eq]
  simp [Region.endings, size]

/-- Whatever follows, a sealed text is cut off. -/
theorem cut_append (closed : Sealed d text) (read rest : List Char) :
    Region.outside.cut d read (text.toList ++ rest) =
      (read ++ text.toList) :: Region.outside.cut d [] rest := by
  obtain ⟨body, last, written, passage, rests⟩ := closed
  rw [written, List.append_assoc, passage.cut_append, List.singleton_append, Region.cut,
    rests.ends_eq, rests.next_eq Region.semicolon_not_mem_marks]
  simp

end Sealed

/-- Texts as they stand on lines: each but the first one behind a line break. -/
def onLines : List String → List String
  | [] => []
  | first :: rest => first :: rest.map fun text => "\n" ++ text

theorem cut_intercalate {d : Dialect} {first : String} {rest : List String}
    (closed : ∀ text ∈ first :: rest, Sealed d text) (read : List Char) :
    Region.outside.cut d read ("\n".intercalate (first :: rest)).toList =
      (read ++ first.toList) :: rest.map fun text => '\n' :: text.toList := by
  induction rest generalizing first read with
  | nil =>
      have alone := (closed first List.mem_cons_self).cut_append read []
      rw [List.append_nil] at alone
      rw [String.intercalate_singleton, alone]
      rfl
  | cons second others ih =>
      have goesOn : Region.outside.ends '\n' = false := by decide
      have stays : Region.outside.next d '\n' = .outside := by cases d <;> decide
      have tail := ih (fun text mem => closed text (List.mem_cons_of_mem first mem)) ['\n']
      rw [String.intercalate_cons_cons, String.toList_append, String.toList_append,
        List.append_assoc, (closed first List.mem_cons_self).cut_append,
        show "\n".toList = ['\n'] from rfl, List.singleton_append, Region.cut, goesOn,
        if_neg Bool.false_ne_true, stays, List.nil_append, tail]
      rfl

/-- Sealed texts on lines are cut where the lines end. -/
theorem cut_lines {d : Dialect} {texts : List String} (closed : ∀ text ∈ texts, Sealed d text) :
    d.cut ("\n".intercalate texts) = onLines texts := by
  cases texts with
  | nil => rfl
  | cons first rest =>
      rw [Dialect.cut, cut_intercalate closed]
      simp [onLines, Function.comp_def, String.ofList_cons]

end Polyquery
