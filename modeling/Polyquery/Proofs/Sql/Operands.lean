import Polyquery.Proofs.Decimal.Whole
import Polyquery.Proofs.Sql.Terminals

/-!
# Operands as terminals

Names, strings and numbers are one spelling each, whatever they hold: a quotation keeps
its characters together by the rules of the dialect, and a number has nothing but digits
and at most a point.  Only the sign of a negative number and the point of a column are
spelled apart.
-/

namespace Polyquery.Sql

/-! ## Names and strings -/

namespace Splitter

variable {d : Dialect} {mark c : Char} {text more : List Char}

/-- A text between marks is part of one spelling. -/
def Keeps (d : Dialect) (mark : Char) (text : List Char) : Prop :=
  ∀ current done, run d ⟨.inside mark, current, done⟩ text =
    ⟨.inside mark, current ++ text, done⟩

theorem Keeps.append (first : Keeps d mark text) (second : Keeps d mark more) :
    Keeps d mark (text ++ more) := by
  intro current done
  rw [run_append, first, second, List.append_assoc]

theorem Keeps.flatMap {write : Char → List Char} (each : ∀ c, Keeps d mark (write c)) :
    Keeps d mark (text.flatMap write) := by
  induction text with
  | nil => exact fun current done => by rw [List.flatMap_nil, List.append_nil]; rfl
  | cons c rest ih => exact (each c).append ih

theorem keeps_singleton (other : c ≠ mark) (noEscape : c ≠ '\\' ∨ d.escapes mark = false) :
    Keeps d mark [c] := by
  intro current done
  rcases noEscape with noBackslash | noEscapes
  · simp [run, step, continues, Region.next, other, noBackslash]
  · simp [run, step, continues, Region.next, other, noEscapes]

theorem keeps_backslashed (noMark : '\\' ≠ mark) (other : c ≠ mark) :
    Keeps d mark ['\\', c] := by
  cases escapes : d.escapes mark with
  | true =>
      intro current done
      simp [run, step, continues, Region.next, escapes]
  | false =>
      exact (keeps_singleton noMark (.inr escapes)).append (keeps_singleton other (.inr escapes))

theorem keeps_twice (noBackslash : mark ≠ '\\') : Keeps d mark [mark, mark] := by
  intro current done
  simp [run, step, continues, Region.next, noBackslash]

theorem keeps_doubledChar (noBackslash : mark ≠ '\\')
    (noEscape : c ≠ '\\' ∨ d.escapes mark = false) : Keeps d mark (doubledChar mark c) := by
  unfold doubledChar
  split_ifs with same
  · rw [same]
    exact keeps_twice noBackslash
  · exact keeps_singleton same noEscape

theorem keeps_escapedChar (c : Char) : Keeps d '\'' (escapedChar '\'' c) := by
  unfold escapedChar
  split_ifs with _ _ _ _ _ _ backslash
  · exact keeps_backslashed (by decide) (by decide)
  · exact keeps_backslashed (by decide) (by decide)
  · exact keeps_backslashed (by decide) (by decide)
  · exact keeps_backslashed (by decide) (by decide)
  · exact keeps_backslashed (by decide) (by decide)
  · exact keeps_backslashed (by decide) (by decide)
  · exact keeps_backslashed (by decide) (by decide)
  · exact keeps_doubledChar (by decide) (.inl backslash)

/-- A text between marks is one spelling with them. -/
theorem run_enclosed {text : String} (known : mark ∈ d.marks) (keeps : Keeps d mark text.toList) :
    initial.run d (enclosed mark text).toList =
      ⟨.closing mark, (enclosed mark text).toList, [[]]⟩ := by
  have noBackslash : mark ≠ '\\' := Walk.ne_backslash_of_mem_marks known
  have opens : initial.run d [mark] = ⟨.inside mark, [mark], [[]]⟩ := by
    change initial.step d mark = _
    rw [step_of_not_continues not_continues_initial, Region.enter, if_pos known]
    rfl
  have closes (current : List Char) :
      run d ⟨.inside mark, current, [[]]⟩ [mark] = ⟨.closing mark, current ++ [mark], [[]]⟩ := by
    simp [run, step, continues, Region.next, noBackslash]
  rw [enclosed, String.toList_append, String.toList_append, String.toList_singleton, run_append,
    run_append, opens, keeps, closes]

theorem nameMark_mem_marks : d.nameMark ∈ d.marks := by
  cases d <;> decide

theorem keeps_name (name : String) : Keeps d d.nameMark (doubled d.nameMark name).toList := by
  have noEscapes : d.escapes d.nameMark = false := by cases d <;> decide
  rw [doubled, String.toList_ofList]
  apply Keeps.flatMap
  exact fun c =>
    keeps_doubledChar (Walk.ne_backslash_of_mem_marks nameMark_mem_marks) (.inr noEscapes)

end Splitter

namespace Reads

variable {d : Dialect}

open Splitter

theorem enclosed {mark : Char} {text : String} {terminal : Terminal} (known : mark ∈ d.marks)
    (keeps : Keeps d mark text.toList)
    (stands : ∀ rest, Terminal.ofSpelling? d (mark :: rest) = some terminal) :
    Reads d (Sql.enclosed mark text).toList [terminal] := by
  have noBlank : ∀ mark ∈ d.marks, isSpace mark = false := d.forall_mem_marks rfl rfl rfl
  have spelled : (Sql.enclosed mark text).toList = mark :: (text.toList ++ [mark]) := by
    simp [Sql.enclosed]
  rw [Reads, run_enclosed known keeps]
  refine ⟨known, ?_⟩
  rw [spelled]
  simp [spellings, noBlank mark known, stands]

theorem quoteName (name : String) : Reads d (d.quoteName name).toList [.name] :=
  enclosed nameMark_mem_marks (keeps_name name) fun _ => if_pos rfl

theorem quoteText (text : String) : Reads d (d.quoteText text).toList [.string] := by
  have known : '\'' ∈ d.marks := by cases d <;> decide
  have stands (rest : List Char) : Terminal.ofSpelling? d ('\'' :: rest) = some .string := by
    cases d <;> rfl
  have escaped : Keeps d '\'' (Sql.escaped '\'' text).toList := by
    rw [Sql.escaped, String.toList_ofList]
    exact .flatMap keeps_escapedChar
  cases d with
  | mysql => exact enclosed known escaped stands
  | sqlite => exact enclosed known escaped stands
  | postgres =>
      refine enclosed known ?_ stands
      rw [doubled, String.toList_ofList]
      exact .flatMap fun c => keeps_doubledChar (by decide) (.inr rfl)

/-- The name of a column behind that of its table. -/
theorem member (table column : String) :
    Reads d ((d.quoteName table).toList ++ ".".toList ++ (d.quoteName column).toList)
      [.name, .dot, .name] := by
  have point : Reads d ".".toList [.dot] := by cases d <;> decide +kernel
  have qualified : Reads d (".".toList ++ (d.quoteName column).toList) [.dot, .name] := by
    refine point.append_of_begins (quoteName column) fun c mem => ?_
    have isMark : c = d.nameMark := by
      simpa [Dialect.quoteName, Sql.quoteName, Sql.enclosed] using mem.symm
    rw [isMark]
    cases d <;> rfl
  rw [List.append_assoc]
  refine (quoteName table).append_of_begins qualified fun c mem => ?_
  have isPoint : '.' = c := Option.some.inj mem
  rw [Dialect.quoteName, Sql.quoteName, run_enclosed nameMark_mem_marks (keeps_name table),
    ← isPoint]
  cases d <;> rfl

end Reads

/-! ## Numbers -/

/-- Digits with at most a point among them, and their terminal. -/
def Numeral (chars : List Char) (number : Terminal) : Prop :=
  chars.head?.any Char.isDigit = true ∧ Terminal.ofDigits? chars = some number

section

variable {d : Dialect} {chars whole fraction : List Char} {number : Terminal}

theorem numeral_of_digits (digits : ∀ c ∈ chars, c.isDigit = true) (some : chars ≠ []) :
    Numeral chars .whole := by
  obtain ⟨first, rest, rfl⟩ := List.exists_cons_of_ne_nil some
  constructor
  · exact digits first List.mem_cons_self
  · rw [Terminal.ofDigits?, if_pos (List.all_eq_true.mpr digits)]

theorem numeral_of_point (wholeDigits : ∀ c ∈ whole, c.isDigit = true) (some : whole ≠ [])
    (fractionDigits : ∀ c ∈ fraction, c.isDigit = true) :
    Numeral (whole ++ '.' :: fraction) .decimal := by
  have noPoint {digits : List Char} (are : ∀ c ∈ digits, c.isDigit = true) :
      digits.count '.' = 0 :=
    List.count_eq_zero.mpr fun point => absurd (are '.' point) (by decide)
  have notWhole : (whole ++ '.' :: fraction).all Char.isDigit = false := by
    simp
  constructor
  · obtain ⟨first, rest, rfl⟩ := List.exists_cons_of_ne_nil some
    exact wholeDigits first List.mem_cons_self
  · have onePoint : (whole ++ '.' :: fraction).count '.' = 1 := by
      simp [noPoint wholeDigits, noPoint fractionDigits]
    have numeric : (whole ++ '.' :: fraction).all isNumberPart = true := by
      simp +contextual [isNumberPart, wholeDigits, fractionDigits]
    rw [Terminal.ofDigits?, notWhole, numeric, onePoint]
    rfl

/-- Outside of quotation marks a number goes on with digits and points. -/
theorem Splitter.run_numberParts {digits : List Char}
    (begins : chars.head?.any Char.isDigit = true)
    (parts : ∀ c ∈ digits, isNumberPart c = true) :
    run d ⟨.outside, chars, [[]]⟩ digits = ⟨.outside, chars ++ digits, [[]]⟩ := by
  induction digits generalizing chars with
  | nil => rw [List.append_nil]; rfl
  | cons c rest ih =>
      have part := parts c List.mem_cons_self
      have noMark : c ∉ d.marks := d.not_mem_marks part rfl rfl rfl
      have joined : joins chars c = true := by simp [joins, begins, part]
      have stepped : step d ⟨.outside, chars, [[]]⟩ c = ⟨.outside, chars ++ [c], [[]]⟩ := by
        rw [step, continues, joined, if_pos rfl]
        exact congrArg (Splitter.mk · _ _) (Region.enter_eq_outside noMark)
      have head : (chars ++ [c]).head?.any Char.isDigit = true := by
        cases chars with
        | nil => cases begins
        | cons first others => exact begins
      change run d (step d _ c) rest = _
      rw [stepped, ih head fun other mem => parts other (List.mem_cons_of_mem c mem),
        List.append_assoc]
      rfl

namespace Numeral

theorem isNumberPart (numeral : Numeral chars number) : ∀ c ∈ chars, isNumberPart c = true := by
  have known := numeral.2
  unfold Terminal.ofDigits? at known
  split_ifs at known with digits point
  · exact fun c mem => by rw [Sql.isNumberPart, List.all_eq_true.mp digits c mem, Bool.true_or]
  · exact List.all_eq_true.mp (Bool.and_eq_true_iff.mp point).1

theorem run_eq (numeral : Numeral chars number) :
    Splitter.initial.run d chars = ⟨.outside, chars, [[]]⟩ := by
  obtain ⟨begins, -⟩ := id numeral
  cases chars with
  | nil => cases begins
  | cons first rest =>
      obtain ⟨part, parts⟩ := List.forall_mem_cons.mp numeral.isNumberPart
      have noMark : first ∉ d.marks := d.not_mem_marks part rfl rfl rfl
      have opens : Splitter.initial.step d first = ⟨.outside, [first], [[]]⟩ := by
        rw [Splitter.step_of_not_continues Splitter.not_continues_initial,
          Region.enter_eq_outside noMark]
        rfl
      change Splitter.run d (Splitter.initial.step d first) rest = _
      rw [opens]
      exact Splitter.run_numberParts begins parts

/-- A number is one terminal. -/
theorem reads (numeral : Numeral chars number) : Reads d chars [number] := by
  rw [Reads, numeral.run_eq]
  refine ⟨trivial, ?_⟩
  obtain ⟨begins, known⟩ := numeral
  cases chars with
  | nil => cases begins
  | cons first rest =>
      have digit : first.isDigit = true := begins
      have other {c : Char} (noDigit : c.isDigit = false) : first ≠ c := by
        rintro rfl
        rw [noDigit] at digit
        cases digit
      have noBlank : isSpace first = false := by
        have kinds : ∀ c ∈ [' ', '\t', '\n', '\x0c', '\r'], first ≠ c := by
          simp only [List.forall_mem_cons]
          exact ⟨other rfl, other rfl, other rfl, other rfl, other rfl, nofun⟩
        simpa [isSpace, and_assoc] using kinds
      have noName : first ≠ d.nameMark := other (by cases d <;> rfl)
      have stands : Terminal.ofSpelling? d (first :: rest) = some number := by
        rw [Terminal.ofSpelling?, if_neg noName, if_neg (other rfl), if_pos digit, known]
      simp [Splitter.spellings, noBlank, stands]

/-- The sign of a number is a terminal of its own. -/
theorem reads_negative (numeral : Numeral chars number) :
    Reads d ('-' :: chars) [.minus, number] := by
  have sign : Reads d ['-'] [.minus] := by cases d <;> decide +kernel
  refine sign.append_of_begins numeral.reads fun c mem => ?_
  have digit : c.isDigit = true := by
    have begins := numeral.1
    rwa [mem] at begins
  have noDash : c ≠ '-' := by
    rintro rfl
    cases digit
  have scanned : Splitter.initial.run d ['-'] = ⟨.outside, ['-'], [[]]⟩ := by cases d <;> rfl
  simp [scanned, Splitter.continues, joins, pairs, isWordPart, noDash]

end Numeral

end

/-- The terminals of a number with its sign. -/
def Terminal.numbers : List (List Terminal) :=
  [[.whole], [.decimal], [.minus, .whole], [.minus, .decimal]]

theorem numeral_natText (n : Nat) : Numeral (toString n).toList .whole :=
  numeral_of_digits (fun _ => isDigit_of_mem_natText) (Json.natText_ne_nil n)

/-- A decimal without an exponent. -/
theorem exists_numeral_fixed (decimal : Decimal.Digits) :
    ∃ number ∈ [.whole, .decimal],
      Numeral (Decimal.Layout.plain.fixed decimal).toList number := by
  have natDigits : ∀ c ∈ (toString decimal.digits).toList, c.isDigit = true :=
    fun _ mem => isDigit_of_mem_natText mem
  have some := Json.natText_ne_nil decimal.digits
  rw [Decimal.Layout.fixed]
  generalize toString decimal.digits = text at *
  by_cases whole : 0 ≤ decimal.exponent
  · refine ⟨.whole, by simp, numeral_of_digits ?_ ?_⟩
    · simp only [whole, if_true, Decimal.Layout.plain, Decimal.zeros, String.toList_append,
        String.toList_ofList, List.append_assoc]
      exact List.forall_mem_append.mpr ⟨natDigits, by simp⟩
    · simp [whole, some]
  · rw [if_neg whole]
    generalize (-decimal.exponent).toNat = places
    refine ⟨.decimal, by simp, ?_⟩
    dsimp only
    split_ifs with small
    · -- zeros between the point and the digits
      have written : ("0." ++ Decimal.zeros (places - text.toList.length) ++ text).toList =
          ['0'] ++ '.' :: (List.replicate (places - text.toList.length) '0' ++ text.toList) := by
        simp [Decimal.zeros]
      rw [written]
      refine numeral_of_point (by simp) (by simp) ?_
      exact List.forall_mem_append.mpr ⟨Json.isDigit_zeros, natDigits⟩
    · -- the point between the digits
      generalize left : text.toList.length - places = n
      have written : (String.ofList (text.toList.take n) ++ "." ++
          String.ofList (text.toList.drop n)).toList =
          text.toList.take n ++ '.' :: text.toList.drop n := by
        simp
      rw [written]
      refine numeral_of_point (fun c mem => natDigits c (List.mem_of_mem_take mem)) ?_
        fun c mem => natDigits c (List.mem_of_mem_drop mem)
      rw [Ne, List.take_eq_nil_iff, not_or]
      exact ⟨by omega, some⟩

namespace Reads

variable {d : Dialect}

theorem exists_signed {text : String} {number : Terminal} (negative : Bool)
    (isNumber : number ∈ [.whole, .decimal]) (numeral : Numeral text.toList number) :
    ∃ terminals ∈ Terminal.numbers,
      Reads d (Decimal.signed negative text).toList terminals := by
  rw [Json.toList_signed]
  cases negative with
  | false => exact ⟨[number], by simpa [Terminal.numbers] using isNumber, numeral.reads⟩
  | true =>
      exact ⟨[.minus, number], by simpa [Terminal.numbers] using isNumber, numeral.reads_negative⟩

end Reads

/-! ## Literals -/

/-- The terminals of a literal. -/
def Terminal.literals : List (List Terminal) :=
  [.keyword .null] :: [.string] :: numbers

namespace Reads

variable {d : Dialect}

theorem exists_int (n : Int) :
    ∃ terminals ∈ Terminal.numbers, Reads d (toString n).toList terminals := by
  cases n with
  | ofNat n => exact exists_signed false List.mem_cons_self (numeral_natText n)
  | negSucc n => exact exists_signed true List.mem_cons_self (numeral_natText (n + 1))

theorem exists_float {x : Float} (finite : Json.IsFinite x) :
    ∃ terminals ∈ Terminal.numbers, Reads d (Decimal.Layout.plain.write x).toList terminals := by
  unfold Json.IsFinite at finite
  rw [Decimal.Layout.write]
  cases of : Decimal.parts x with
  | nan => simp [of] at finite
  | infinite => simp [of] at finite
  | zero negative => exact exists_signed negative List.mem_cons_self (numeral_natText 0)
  | finite negative b =>
      obtain ⟨number, isNumber, numeral⟩ := exists_numeral_fixed (b.shortest .up)
      exact exists_signed negative isNumber numeral

/-- Whatever a value is, MySQL and SQLite read its literal as one. -/
theorem exists_literal (engine : d ≠ .postgres) {value : Value} (finite : value.IsFinite) :
    ∃ terminals ∈ Terminal.literals, Reads d (d.literal value).toList terminals := by
  have ofNumber {text : String} (number : ∃ terminals ∈ Terminal.numbers,
      Reads d text.toList terminals) :
      ∃ terminals ∈ Terminal.literals, Reads d text.toList terminals := by
    obtain ⟨terminals, mem, reads⟩ := number
    exact ⟨terminals, List.mem_cons_of_mem _ (List.mem_cons_of_mem _ mem), reads⟩
  have ofText (text : String) :
      ∃ terminals ∈ Terminal.literals, Reads d (d.quoteText text).toList terminals :=
    ⟨[.string], by simp [Terminal.literals], quoteText text⟩
  cases value with
  | null => exact ⟨[.keyword .null], List.mem_cons_self, by cases d <;> decide +kernel⟩
  | bool b =>
      have digit : d.boolean b = toString b.toNat := by
        cases d <;> cases b <;> first | rfl | exact absurd rfl engine
      rw [Dialect.literal, digit]
      exact ofNumber ⟨[.whole], List.mem_cons_self, (numeral_natText b.toNat).reads⟩
  | int n => exact ofNumber (exists_int n)
  | float x => exact ofNumber (exists_float finite)
  | str s => exact ofText s
  | date t => exact ofText t.display

end Reads

end Polyquery.Sql
