import Polyquery.Proofs.Sql.Lexing
import Polyquery.Proofs.Sql.Quotation

/-!
# Placeholders in a text

A text of a statement has holes: the placeholders that stand outside of quotation marks,
question marks or, for PostgreSQL, dollar signs with a number.  A reader that knows only
the marks of a dialect and these signs finds the holes and fills them with literals.
What the reader finds in a drafted statement is the draft: a hole for every parameter,
and every other piece as it is spelled.
-/

namespace Polyquery

/-- A stretch of a text. -/
inductive Stretch where
  /-- A character that is no part of a placeholder. -/
  | plain (c : Char)
  /-- A placeholder, with the digits of its number if it has one. -/
  | hole (digits : List Char)

/-- The character that begins a placeholder. -/
def Dialect.sign : Dialect → Char
  | mysql | sqlite => '?'
  | postgres => '$'

/-- The spelling of a placeholder. -/
def Stretch.placeholder? (d : Dialect) : Stretch → Option String
  | plain _ => none
  | hole digits => some (String.ofList (d.sign :: digits))

namespace Dialect

variable (d : Dialect)

/-- Whether placeholders have a number. -/
def isNumbered : Dialect → Bool
  | mysql | sqlite => false
  | postgres => true

/-- Whether a character begins a placeholder, in front of other characters. -/
def opensHole (c : Char) (behind : List Char) : Bool :=
  c = d.sign && (!d.isNumbered || behind.head?.any Char.isDigit)

/-- The digits of a placeholder, in front of other characters. -/
def holeDigits (behind : List Char) : List Char :=
  if d.isNumbered then behind.takeWhile Char.isDigit else []

/-- The stretches of a text that begins in a region.  While a placeholder is `numbering`,
the digits behind it belong to it. -/
def stretchesFrom : Region → (numbering : Bool) → List Char → List Stretch
  | _, _, [] => []
  | region, numbering, c :: cs =>
    if numbering && c.isDigit then stretchesFrom region true cs
    else if region.isOutside && d.opensHole c cs then
      .hole (d.holeDigits cs) :: stretchesFrom .outside d.isNumbered cs
    else .plain c :: stretchesFrom (region.next d c) false cs

/-- The stretches of a text. -/
def stretches (text : String) : List Stretch :=
  d.stretchesFrom .outside false text.toList

/-- The placeholders of a text, from left to right. -/
def holes (text : String) : List String :=
  (d.stretches text).filterMap (Stretch.placeholder? d)

/-- The value for a placeholder behind `k` others: the one with its number, or else the
next one. -/
def holeValue? (values : List Value) (k : Nat) (digits : List Char) : Option Value :=
  if d.isNumbered then do
    let n ← Sql.Lexer.parameterNumber? digits
    if n = 0 then none else values[n - 1]?
  else values[k]?

/-- Literals in place of the placeholders, where `k` others stand in front; none if a
placeholder has no value. -/
def fillFrom? (values : List Value) : (k : Nat) → List Stretch → Option (List Char)
  | _, [] => some []
  | k, .plain c :: rest => (fillFrom? values k rest).map (c :: ·)
  | k, .hole digits :: rest => do
    let value ← d.holeValue? values k digits
    return (d.literal value).toList ++ (← fillFrom? values (k + 1) rest)

/-- A text with the literals of values in place of its placeholders. -/
def fill? (values : List Value) (text : String) : Option String :=
  (d.fillFrom? values 0 (d.stretches text)).map String.ofList

end Dialect

variable {d : Dialect}

/-! ## Splitting texts -/

/-- The characters that begin no placeholder in any dialect. -/
def Unsigned (c : Char) : Prop :=
  c ≠ '?' ∧ c ≠ '$'

instance (c : Char) : Decidable (Unsigned c) :=
  inferInstanceAs (Decidable (_ ∧ _))

theorem unsigned_of_kind {kind : Char → Bool} {c : Char}
    (none : kind '?' = false ∧ kind '$' = false) (belongs : kind c = true) : Unsigned c := by
  constructor
  · rintro rfl
    rw [none.1] at belongs
    contradiction
  · rintro rfl
    rw [none.2] at belongs
    contradiction

theorem Shown.unsigned {c : Char} (shown : Shown d c) : Unsigned c := by
  rcases shown with mark | numeral
  · have every : ∀ mark ∈ d.marks, mark ≠ '?' ∧ mark ≠ '$' :=
      d.forall_mem_marks (by decide) (by decide) (by decide)
    exact every c mark
  · exact unsigned_of_kind (by decide) numeral

theorem IsWords.unsigned {s : String} (words : IsWords s) : ∀ c ∈ s.toList, Unsigned c :=
  fun c mem => unsigned_of_kind (by decide) (List.all_eq_true.mp words c mem)

theorem IsWords.not_mem_marks {s : String} (words : IsWords s) : ∀ c ∈ s.toList, c ∉ d.marks :=
  fun c mem => d.not_mem_marks (List.all_eq_true.mp words c mem) rfl rfl rfl

namespace Dialect

variable {c : Char} {cs rest : List Char}

theorem opensHole_eq_false (unsigned : Unsigned c) : d.opensHole c rest = false := by
  cases d <;> simp [opensHole, sign, unsigned.1, unsigned.2]

/-- Digits belong to a placeholder that is still numbering; nothing else does. -/
theorem stretchesFrom_numbering (digits : ∀ c ∈ cs, c.isDigit = true)
    (apart : rest.head?.any Char.isDigit = false) (region : Region) :
    d.stretchesFrom region true (cs ++ rest) = d.stretchesFrom region false rest := by
  induction cs with
  | nil =>
      cases rest with
      | nil => rfl
      | cons c others =>
          have noDigit : c.isDigit = false := apart
          simp [stretchesFrom, noDigit]
  | cons c others ih =>
      rw [List.cons_append, stretchesFrom, digits c List.mem_cons_self]
      exact ih fun other mem => digits other (List.mem_cons_of_mem c mem)

end Dialect

/-- A walk that meets no sign outside goes over plain characters. -/
theorem Walk.stretchesFrom_append {first last : Region} {chars : List Char}
    (walk : Walk d Unsigned first chars last) (rest : List Char) :
    d.stretchesFrom first false (chars ++ rest) =
      chars.map .plain ++ d.stretchesFrom last false rest := by
  induction walk with
  | nil => rfl
  | @cons region last c cs allowed _ ih =>
      have noHole : (region.isOutside && d.opensHole c (cs ++ rest)) = false := by
        cases outside : region.isOutside with
        | false => rfl
        | true => exact Dialect.opensHole_eq_false (allowed outside)
      rw [List.cons_append, Dialect.stretchesFrom, noHole, ih]
      rfl

/-- Whatever follows unless it is a digit, a text that begins in one region is split into
stretches and leads to another region. -/
def Splits (d : Dialect) (first : Region) (chars : List Char) (made : List Stretch)
    (last : Region) : Prop :=
  ∀ rest : List Char, rest.head?.any Char.isDigit = false →
    d.stretchesFrom first false (chars ++ rest) = made ++ d.stretchesFrom last false rest

namespace Splits

variable {first middle last : Region} {chars more : List Char} {made others : List Stretch}

theorem of_walk (walk : Walk d Unsigned first chars last) :
    Splits d first chars (chars.map .plain) last :=
  fun rest _ => walk.stretchesFrom_append rest

theorem walk_append (walk : Walk d Unsigned first chars middle)
    (right : Splits d middle more others last) :
    Splits d first (chars ++ more) (chars.map .plain ++ others) last := by
  intro rest apart
  rw [List.append_assoc, walk.stretchesFrom_append, right rest apart, List.append_assoc]

/-- A text is split on its own in front of a text that begins with no digit. -/
theorem append (left : Splits d first chars made middle) (right : Splits d middle more others last)
    (apart : ∀ rest, (more ++ rest).head?.any Char.isDigit = false) :
    Splits d first (chars ++ more) (made ++ others) last := by
  intro rest restApart
  rw [List.append_assoc, left _ (apart rest), right rest restApart, List.append_assoc]

end Splits

theorem isDigit_eq_false_of_isSeparator {c : Char} (separator : isSeparator c = true) :
    c.isDigit = false := by
  simp only [isSeparator, Bool.or_eq_true, decide_eq_true_eq] at separator
  rcases separator with (((rfl | rfl) | rfl) | rfl) | rfl <;> decide

theorem IsClosing.apart {s : String} (closing : IsClosing s) (rest : List Char) :
    (s.toList ++ rest).head?.any Char.isDigit = false := by
  obtain ⟨-, begins⟩ := closing
  cases letters : s.toList with
  | nil => simp [letters] at begins
  | cons c others =>
      rw [letters] at begins
      exact isDigit_eq_false_of_isSeparator begins

theorem IsWords.walk {s : String} (words : IsWords s) : Walk d Unsigned .outside s.toList .outside :=
  Walk.outside_of_bare words.unsigned words.not_mem_marks

theorem IsClosing.walk {s : String} (closing : IsClosing s) {region : Region}
    (rests : region.Rests d) : Walk d Unsigned region s.toList .outside :=
  Walk.of_bare rests closing.1.unsigned closing.1.not_mem_marks closing.ne_nil

/-! ## Pieces -/

namespace Piece

/-- The digits with which a placeholder is numbered. -/
def numberDigits (d : Dialect) (n : Nat) : List Char :=
  if d.isNumbered then (toString n).toList else []

/-- The stretches of a piece: a hole for a parameter, and everything else as it is
spelled. -/
def stretches (d : Dialect) : Piece → List Stretch
  | .bound n => [.hole (numberDigits d n)]
  | piece => (piece.spell d d.placeholder).toList.map .plain

theorem stretches_text (s : String) : stretches d (.text s) = s.toList.map .plain := rfl

/-- A piece is read as its stretches, up to where a quotation may have ended. -/
def IsSplit (d : Dialect) (piece : Piece) : Prop :=
  ∃ last : Region, last.Rests d ∧
    Splits d .outside (piece.spell d d.placeholder).toList (piece.stretches d) last

theorem isSplit_name (name : String) : IsSplit d (.name name) := by
  obtain ⟨last, rests, walk⟩ := shows_quoteName (d := d) name
  exact ⟨last, rests, .of_walk (walk.mono fun _ => Shown.unsigned)⟩

theorem isSplit_value (value : Value) : IsSplit d (.value value) := by
  obtain ⟨last, rests, walk⟩ := shows_literal (d := d) value
  exact ⟨last, rests, .of_walk (walk.mono fun _ => Shown.unsigned)⟩

theorem toList_placeholder (n : Nat) :
    (d.placeholder n).toList = d.sign :: numberDigits d n := by
  cases d <;> simp [Dialect.placeholder, Dialect.sign, numberDigits, Dialect.isNumbered]

theorem isSplit_bound (n : Nat) : IsSplit d (.bound n) := by
  refine ⟨.outside, trivial, fun rest apart => ?_⟩
  have digits : ∀ c ∈ numberDigits d n, c.isDigit = true := by
    intro c mem
    unfold numberDigits at mem
    split at mem
    · exact isDigit_of_mem_natText mem
    · cases mem
  change d.stretchesFrom .outside false ((d.placeholder n).toList ++ rest) =
    .hole (numberDigits d n) :: d.stretchesFrom .outside false rest
  rw [toList_placeholder, List.cons_append, Dialect.stretchesFrom]
  cases numbered : d.isNumbered with
  | false =>
      simp [Region.isOutside, Dialect.opensHole, Dialect.holeDigits, numberDigits, numbered]
  | true =>
      have noDigit : rest.takeWhile Char.isDigit = [] := by
        cases rest with
        | nil => rfl
        | cons c others =>
            have first : c.isDigit = false := apart
            simp [first]
      have taken : d.holeDigits (numberDigits d n ++ rest) = numberDigits d n := by
        rw [Dialect.holeDigits, if_pos numbered, List.takeWhile_append_of_pos digits, noDigit,
          List.append_nil]
      have present : numberDigits d n ≠ [] := by
        simp [numberDigits, numbered, Nat.toString_eq_repr, Nat.toDigits_ne_nil]
      have opens : d.opensHole d.sign (numberDigits d n ++ rest) = true := by
        cases letters : numberDigits d n with
        | nil => exact absurd letters present
        | cons c others =>
            have first : c.isDigit = true := digits c (by rw [letters]; exact List.mem_cons_self)
            simp [Dialect.opensHole, first]
      simp [Region.isOutside, opens, taken, Dialect.stretchesFrom_numbering digits apart]

end Piece

open Piece

/-- A phrase is split into the stretches of its pieces. -/
theorem Phrase.splits {pieces : List Piece} (phrase : Phrase (IsSplit d) pieces) :
    ∃ last : Region, last.Rests d ∧
      Splits d .outside (chars d d.placeholder pieces) (pieces.flatMap (Piece.stretches d)) last := by
  induction phrase with
  | @slot piece allowed =>
      rw [chars_singleton, List.flatMap_singleton]
      exact allowed
  | @words s words =>
      rw [chars_singleton, List.flatMap_singleton]
      exact ⟨.outside, trivial, .of_walk words.walk⟩
  | before opening inner ih =>
      obtain ⟨last, rests, splits⟩ := ih
      rw [chars_text_cons, List.flatMap_cons]
      exact ⟨last, rests, .walk_append opening.1.walk splits⟩
  | after closing inner ih =>
      obtain ⟨last, rests, splits⟩ := ih
      rw [chars_append, chars_singleton, List.flatMap_append, List.flatMap_singleton]
      exact ⟨.outside, trivial, splits.append (.of_walk (closing.walk rests)) closing.apart⟩
  | between glue left right ihLeft ihRight =>
      obtain ⟨middle, restsMiddle, first⟩ := ihLeft
      obtain ⟨last, rests, second⟩ := ihRight
      rw [chars_append, chars_text_cons, List.flatMap_append, List.flatMap_cons]
      refine ⟨last, rests, first.append (.walk_append (glue.2.walk restsMiddle) second) ?_⟩
      intro rest
      rw [List.append_assoc]
      exact glue.2.apart _

/-- Page numbers and the semicolon are plain characters behind a phrase. -/
theorem splits_pages {pages : List Piece} (numbered : ∀ page ∈ pages, IsPage page)
    {region : Region} (rests : region.Rests d) :
    ∃ last : Region,
      Splits d region (chars d d.placeholder (pages ++ [Piece.text ";"]))
        ((pages ++ [Piece.text ";"]).flatMap (Piece.stretches d)) last ∧
      ∀ rest, (chars d d.placeholder (pages ++ [Piece.text ";"]) ++ rest).head?.any Char.isDigit =
        false := by
  induction pages generalizing region with
  | nil =>
      have semicolon : Walk d Unsigned region [';'] .outside :=
        Walk.of_bare rests (fun c mem => by rw [List.mem_singleton.mp mem]; decide)
          (fun c mem => by
            rw [List.mem_singleton.mp mem]
            exact Region.semicolon_not_mem_marks) (List.cons_ne_nil _ _)
      have spelled : ";".toList = [';'] := rfl
      rw [List.nil_append, chars_singleton, List.flatMap_singleton, spell, stretches_text, spelled]
      exact ⟨.outside, .of_walk semicolon, fun rest => rfl⟩
  | cons page others ih =>
      obtain ⟨word, n, closing, rfl⟩ := numbered page List.mem_cons_self
      have outside : Region.outside.Rests d := trivial
      obtain ⟨last, splits, apart⟩ :=
        ih (fun other mem => numbered other (List.mem_cons_of_mem _ mem)) outside
      have digits : Walk d Unsigned .outside (toString n).toList .outside :=
        Walk.outside_of_bare
          (fun c mem => unsigned_of_kind (by decide) (isDigit_of_mem_natText mem))
          fun c mem => d.not_mem_marks (isDigit_of_mem_natText mem) rfl rfl rfl
      refine ⟨last, ?_, ?_⟩
      · rw [List.cons_append, chars_text_cons, List.flatMap_cons, stretches_text,
          String.toList_append]
        exact .walk_append ((closing.walk rests).append digits) splits
      · intro rest
        rw [List.cons_append, chars_text_cons, String.toList_append, List.append_assoc,
          List.append_assoc]
        exact closing.apart _

/-- A reader finds in a drafted statement the pieces of the draft. -/
theorem Draft.stretches_spell {draft : Draft} (terminated : Terminated (IsSplit d) draft.pieces) :
    d.stretches (draft.spell d d.placeholder) = draft.pieces.flatMap (Piece.stretches d) := by
  obtain ⟨phrase, pages, isPhrase, numbered, pieces⟩ := terminated
  obtain ⟨middle, rests, front⟩ := isPhrase.splits
  obtain ⟨last, behind, apart⟩ := splits_pages numbered rests
  have whole := front.append behind apart [] rfl
  rw [List.append_nil, ← chars_append, ← List.flatMap_append] at whole
  rw [Dialect.stretches, Draft.toList_spell, pieces, List.append_assoc, whole]
  exact List.append_nil _

/-- Whatever is drafted for a query is split into its pieces. -/
theorem Query.terminated_isSplit {query : Query} {drafts : List Draft}
    (made : query.drafts d = .ok drafts) {draft : Draft} (mem : draft ∈ drafts) :
    Terminated (IsSplit d) draft.pieces :=
  terminated_of_mem_drafts isSplit_name isSplit_bound isSplit_value made mem

/-! ## Holes -/

/-- The holes of a drafted statement are the placeholders of its parameters. -/
theorem Draft.holes_spell {draft : Draft} (terminated : Terminated (IsSplit d) draft.pieces) :
    d.holes (draft.spell d d.placeholder) = (bounds draft.pieces).map d.placeholder := by
  rw [Dialect.holes, stretches_spell terminated]
  clear terminated
  induction draft.pieces with
  | nil => rfl
  | cons piece rest ih =>
      rw [List.flatMap_cons, List.filterMap_append, ih]
      have plain (cs : List Char) :
          (cs.map Stretch.plain).filterMap (Stretch.placeholder? d) = [] := by
        rw [List.filterMap_map, List.filterMap_eq_nil_iff]
        exact fun c _ => rfl
      cases piece with
      | text s => exact congrArg (· ++ _) (plain s.toList)
      | name s => exact congrArg (· ++ _) (plain (d.quoteName s).toList)
      | value v => exact congrArg (· ++ _) (plain (d.literal v).toList)
      | bound n =>
          have spelled : String.ofList (d.sign :: numberDigits d n) = d.placeholder n := by
            rw [← toList_placeholder, String.ofList_toList]
          exact congrArg (· :: _) spelled

end Polyquery
