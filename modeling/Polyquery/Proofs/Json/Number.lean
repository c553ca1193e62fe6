import Polyquery.Json.Printer
import Polyquery.Json.Reader
import Polyquery.Proofs.Decimal.Characters
import Polyquery.Proofs.Decimal.Shortest

/-!
# Numbers read exactly

A reader that takes the digits of a number for what they stand for gets every number back
that was written: whole numbers by their digits, and the others because the shortest
decimal of a floating point number rounds to it.
-/

namespace Polyquery.Json

open Decimal (Binary Digits Layout)

/-! ## Digits -/

theorem digitsValue_eq (digits : List Char) :
    digitsValue digits = Nat.ofDigitChars 10 digits 0 := rfl

theorem digitsValue_append (digits more : List Char) :
    digitsValue (digits ++ more) = 10 ^ more.length * digitsValue digits + digitsValue more := by
  rw [digitsValue_eq, Nat.ofDigitChars_append, Nat.ofDigitChars_eq_ofDigitChars_zero]
  rfl

@[simp]
theorem digitsValue_zeros (n : Nat) : digitsValue (List.replicate n '0') = 0 := by
  rw [digitsValue_eq, Nat.ofDigitChars_replicate_zero, Nat.mul_zero]

@[simp]
theorem digitsValue_natText (n : Nat) : digitsValue (toString n).toList = n := by
  rw [Nat.toString_eq_repr, Nat.toList_repr, digitsValue_eq, Nat.ofDigitChars_ten_toDigits]

namespace NumberParts

/-- The number that is written, without its sign. -/
def value (parts : NumberParts) : ℚ :=
  digitsValue (parts.whole ++ parts.fraction.getD []) *
    10 ^ (parts.shift - (parts.fraction.getD []).length)

/-- A number read exactly.  Whole numbers of 64 bits stay whole, except the negative zero;
all others are rounded to double precision once. -/
def exactly? (parts : NumberParts) : Option Number :=
  match parts.fraction, parts.exponent with
  | none, none =>
    let n : Int := if parts.negative then -(digitsValue parts.whole) else digitsValue parts.whole
    if Number.fitsWhole n && !(parts.negative && n == 0) then some (.int n)
    else (Decimal.nearest? parts.negative parts.value).map .float
  | _, _ => (Decimal.nearest? parts.negative parts.value).map .float

/-- The characters of an exponent after its mark. -/
def exponentText : Bool × List Char → List Char
  | (down, digits) => (if down then '-' else '+') :: digits

/-- The characters of a number. -/
def text (parts : NumberParts) : List Char :=
  (if parts.negative then ['-'] else []) ++ (parts.whole ++
    ((parts.fraction.map ('.' :: ·)).getD [] ++
      (parts.exponent.map fun exponent => 'e' :: exponentText exponent).getD []))

/-- The digits of a number are written as JSON demands. -/
structure Proper (parts : NumberParts) : Prop where
  whole_digits : ∀ c ∈ parts.whole, c.isDigit = true
  whole_nonempty : parts.whole ≠ []
  no_leading_zero : parts.whole.head? = some '0' → parts.whole.length = 1
  fraction_digits : ∀ digits, parts.fraction = some digits →
    digits ≠ [] ∧ ∀ c ∈ digits, c.isDigit = true
  exponent_digits : ∀ down digits, parts.exponent = some (down, digits) →
    digits ≠ [] ∧ ∀ c ∈ digits, c.isDigit = true

theorem takeWhile_digits {digits rest : List Char} (all : ∀ c ∈ digits, c.isDigit = true)
    (stop : rest.head?.all (!Char.isDigit ·) = true) :
    (digits ++ rest).takeWhile Char.isDigit = digits ∧
      (digits ++ rest).dropWhile Char.isDigit = rest := by
  rw [List.takeWhile_append_of_pos all, List.dropWhile_append_of_pos all]
  cases rest with
  | nil => simp
  | cons c rest =>
      have stopped : c.isDigit = false := by simpa using stop
      simp [stopped]

/-- The text of a number is taken apart again. -/
theorem ofText?_text {parts : NumberParts} (proper : parts.Proper) :
    ofText? parts.text = some parts := by
  obtain ⟨negative, whole, fraction, exponent⟩ := parts
  obtain ⟨digits, nonempty, noLeadingZero, ofFraction, ofExponent⟩ := proper
  dsimp only at *
  obtain ⟨first, others, rfl⟩ := List.exists_cons_of_ne_nil nonempty
  have notMinus : first ≠ '-' := by
    rintro rfl
    exact absurd (digits '-' List.mem_cons_self) (by decide)
  have leading : first = '0' → others = [] := by
    rintro rfl
    simpa using noLeadingZero rfl
  -- the digits of a part end where the next part begins
  have whole {rest : List Char} := @takeWhile_digits (first :: others) rest digits
  cases fraction with
  | none =>
      cases exponent with
      | none =>
          obtain ⟨taken, dropped⟩ := @whole [] rfl
          rw [List.append_nil] at taken dropped
          cases negative <;> simpa [text, ofText?, notMinus, taken, dropped] using leading
      | some exponent =>
          obtain ⟨down, power⟩ := exponent
          obtain ⟨some, powerDigits⟩ := ofExponent down power rfl
          obtain ⟨taken, dropped⟩ := @whole ('e' :: exponentText (down, power)) rfl
          rw [List.cons_append] at taken dropped
          cases negative <;> cases down <;> simp [exponentText] at taken dropped <;>
            simpa [text, ofText?, exponentText, notMinus, taken, dropped, some] using
              ⟨leading, powerDigits⟩
  | some fraction =>
      obtain ⟨someFraction, fractionDigits⟩ := ofFraction fraction rfl
      cases exponent with
      | none =>
          obtain ⟨taken, dropped⟩ := @whole ('.' :: fraction) rfl
          obtain ⟨fractionTaken, fractionDropped⟩ :=
            @takeWhile_digits fraction [] fractionDigits rfl
          rw [List.append_nil] at fractionTaken fractionDropped
          rw [List.cons_append] at taken dropped
          cases negative <;> simpa [text, ofText?, notMinus, taken, dropped, fractionTaken,
            fractionDropped, someFraction] using leading
      | some exponent =>
          obtain ⟨down, power⟩ := exponent
          obtain ⟨some, powerDigits⟩ := ofExponent down power rfl
          obtain ⟨taken, dropped⟩ :=
            @whole ('.' :: (fraction ++ 'e' :: exponentText (down, power))) rfl
          obtain ⟨fractionTaken, fractionDropped⟩ :=
            @takeWhile_digits fraction ('e' :: exponentText (down, power)) fractionDigits rfl
          rw [List.cons_append] at taken dropped
          cases negative <;> cases down <;>
            simp [exponentText] at taken dropped fractionTaken fractionDropped <;>
            simpa [text, ofText?, exponentText, notMinus, taken, dropped, fractionTaken,
              fractionDropped, someFraction, some] using ⟨leading, powerDigits⟩

end NumberParts

/-! ## Digits of whole numbers -/

theorem natText_ne_nil (n : Nat) : (toString n).toList ≠ [] := by
  rw [Nat.toString_eq_repr, Nat.toList_repr]
  exact Nat.toDigits_ne_nil

theorem head?_natText_ne_zero {n : Nat} (positive : 0 < n) :
    (toString n).toList.head? ≠ some '0' := by
  rw [Nat.toString_eq_repr, Nat.toList_repr]
  induction n using Nat.strongRecOn with
  | ind n ih =>
      by_cases small : n < 10
      · rw [Nat.toDigits_of_lt_base small]
        interval_cases n <;> decide
      · rw [Nat.toDigits_of_base_le (by decide) (not_lt.mp small),
          List.head?_append_of_ne_nil _ Nat.toDigits_ne_nil]
        exact ih (n / 10) (by omega) (by omega)

/-- The parts of the text of a whole number. -/
def NumberParts.ofInt (n : Int) : NumberParts :=
  ⟨decide (n < 0), (toString n.natAbs).toList, none, none⟩

theorem NumberParts.proper_ofInt (n : Int) : (ofInt n).Proper where
  whole_digits _ mem := isDigit_of_mem_natText mem
  whole_nonempty := natText_ne_nil _
  no_leading_zero := by
    intro leading
    rcases Nat.eq_zero_or_pos n.natAbs with zero | positive
    · rw [ofInt, zero]
      rfl
    · exact absurd leading (head?_natText_ne_zero positive)
  fraction_digits := nofun
  exponent_digits := nofun

theorem NumberParts.text_ofInt (n : Int) : (ofInt n).text = (toString n).toList := by
  cases n with
  | ofNat n =>
      change _ = (toString n).toList
      simp [text, ofInt]
  | negSucc n =>
      change _ = ("-" ++ toString (n + 1)).toList
      simp [text, ofInt]

/-- Whole numbers of 64 bits are read back. -/
theorem NumberParts.exactly?_ofInt {n : Int} (fits : Number.fitsWhole n = true) :
    (ofInt n).exactly? = some (.int n) := by
  have value : (if decide (n < 0) then -(n.natAbs : Int) else n.natAbs) = n := by
    split <;> rename_i sign <;> simp only [decide_eq_true_eq] at sign <;> omega
  have noNegativeZero : (decide (n < 0) && n == 0) = false := by
    by_cases negative : n < 0 <;> simp [negative]
    omega
  simp only [exactly?, ofInt, digitsValue_natText, value, fits, noNegativeZero]
  rfl

/-! ## Digits of decimals -/

/-- The text of a decimal with these parts. -/
structure IsTextOf (text : String) (negative : Bool) (d : Digits) (parts : NumberParts) : Prop where
  proper : parts.Proper
  text_eq : (Decimal.signed negative text).toList = parts.text
  negative_eq : parts.negative = negative
  not_whole : parts.fraction ≠ none ∨ parts.exponent ≠ none
  value_eq : parts.value = d.value

theorem toList_signed (negative : Bool) (text : String) :
    (Decimal.signed negative text).toList = (if negative then ['-'] else []) ++ text.toList := by
  cases negative with
  | false => rfl
  | true => simp [Decimal.signed]

theorem isDigit_zeros {n : Nat} : ∀ c ∈ List.replicate n '0', c.isDigit = true := by
  intro c mem
  rw [List.eq_of_mem_replicate mem]
  rfl

/-- Digits on both sides of a point. -/
theorem isTextOf_positional {d : Digits} {text : String} {whole fraction : List Char}
    (negative : Bool) (wholeDigits : ∀ c ∈ whole, c.isDigit = true) (someWhole : whole ≠ [])
    (noLeadingZero : whole.head? = some '0' → whole.length = 1)
    (fractionDigits : ∀ c ∈ fraction, c.isDigit = true) (someFraction : fraction ≠ [])
    (written : text.toList = whole ++ '.' :: fraction)
    (value : digitsValue (whole ++ fraction) * (10 : ℚ) ^ (-(fraction.length : ℤ)) = d.value) :
    IsTextOf text negative d ⟨negative, whole, some fraction, none⟩ where
  proper := {
    whole_digits := wholeDigits
    whole_nonempty := someWhole
    no_leading_zero := noLeadingZero
    fraction_digits := by
      rintro _ ⟨⟩
      exact ⟨someFraction, fractionDigits⟩
    exponent_digits := nofun }
  text_eq := by
    rw [toList_signed, written]
    simp [NumberParts.text]
  negative_eq := rfl
  not_whole := .inl nofun
  value_eq := by
    rw [← value, NumberParts.value]
    simp [NumberParts.shift]

theorem isTextOf_fixed {d : Digits} (positive : 0 < d.digits) (negative : Bool) :
    ∃ parts, IsTextOf (Layout.json.fixed d) negative d parts := by
  have natDigits : ∀ c ∈ (toString d.digits).toList, c.isDigit = true :=
    fun _ mem => isDigit_of_mem_natText mem
  have nonempty := natText_ne_nil d.digits
  have head := head?_natText_ne_zero positive
  have number := digitsValue_natText d.digits
  rw [Layout.fixed]
  generalize toString d.digits = text at *
  generalize written : text.toList = digits at *
  by_cases whole : 0 ≤ d.exponent
  · -- zeros after the digits
    refine ⟨_, @isTextOf_positional d _ (digits ++ List.replicate d.exponent.toNat '0') ['0']
      negative ?_ ?_ ?_ ?_ ?_ ?_ ?_⟩
    · exact fun c mem => (List.mem_append.mp mem).elim (natDigits c) (isDigit_zeros c)
    · exact List.append_ne_nil_of_left_ne_nil nonempty _
    · rw [List.head?_append_of_ne_nil _ nonempty]
      exact fun zero => absurd zero head
    · simp
    · simp
    · simp [whole, Layout.json, Decimal.zeros, written]
    · have exponent : (10 : ℚ) ^ d.exponent = 10 ^ d.exponent.toNat := by
        rw [← zpow_natCast, Int.toNat_of_nonneg whole]
      have zero : digitsValue ['0'] = 0 := rfl
      rw [Digits.value, exponent, digitsValue_append, digitsValue_append, number, zero,
        digitsValue_zeros]
      simp only [List.length_singleton, List.length_replicate]
      push_cast
      rw [zpow_neg_one]
      ring
  · obtain ⟨places, exponent⟩ := Int.exists_eq_neg_ofNat (not_le.mp whole).le
    have some : places ≠ 0 := by
      rintro rfl
      exact whole exponent.ge
    rw [if_neg whole]
    simp only [exponent, neg_neg, Int.toNat_natCast]
    by_cases small : digits.length ≤ places
    · -- zeros between the point and the digits
      refine ⟨_, @isTextOf_positional d _ ['0'] (List.replicate (places - digits.length) '0' ++
        digits) negative ?_ ?_ ?_ ?_ ?_ ?_ ?_⟩
      · simp
      · simp
      · simp
      · exact fun c mem => (List.mem_append.mp mem).elim (isDigit_zeros c) (natDigits c)
      · exact List.append_ne_nil_of_right_ne_nil _ nonempty
      · simp [small, Decimal.zeros, written]
      · have zero : digitsValue ['0'] = 0 := rfl
        rw [Digits.value, exponent, digitsValue_append, digitsValue_append, number, zero,
          digitsValue_zeros]
        simp [small]
    · -- the point between the digits
      refine ⟨_, @isTextOf_positional d _ (digits.take (digits.length - places))
        (digits.drop (digits.length - places)) negative ?_ ?_ ?_ ?_ ?_ ?_ ?_⟩
      · exact fun c mem => natDigits c (List.mem_of_mem_take mem)
      · rw [Ne, List.take_eq_nil_iff, not_or]
        exact ⟨by omega, nonempty⟩
      · rw [List.head?_take, if_neg (by omega)]
        exact fun zero => absurd zero head
      · exact fun c mem => natDigits c (List.mem_of_mem_drop mem)
      · rw [Ne, List.drop_eq_nil_iff]
        omega
      · simp [small]
      · rw [Digits.value, exponent, List.take_append_drop, number, List.length_drop]
        congr 3
        omega

/-- The mark and the digits of an exponent. -/
theorem toList_exponent (n : Int) :
    ((if 0 ≤ n && Layout.json.exponentPlus then "e+" else "e") ++ toString n).toList =
      'e' :: NumberParts.exponentText (decide (n < 0), (toString n.natAbs).toList) := by
  cases n with
  | ofNat n =>
      change ("e+" ++ toString n).toList = _
      simp [NumberParts.exponentText]
  | negSucc n =>
      change ("e" ++ ("-" ++ toString (n + 1))).toList = _
      simp [NumberParts.exponentText]

/-- One digit before the point, and an exponent. -/
theorem isTextOf_exponent {d : Digits} {text : String} {first : Char}
    {fraction : Option (List Char)} {exponent : Int} (negative : Bool) (firstDigit : first.isDigit = true)
    (fractionDigits : ∀ digits, fraction = some digits →
      digits ≠ [] ∧ ∀ c ∈ digits, c.isDigit = true)
    (written : text.toList = first :: ((fraction.map ('.' :: ·)).getD [] ++
      'e' :: NumberParts.exponentText (decide (exponent < 0), (toString exponent.natAbs).toList)))
    (value : digitsValue (first :: fraction.getD []) *
      (10 : ℚ) ^ (exponent - (fraction.getD []).length) = d.value) :
    IsTextOf text negative d ⟨negative, [first], fraction,
      some (decide (exponent < 0), (toString exponent.natAbs).toList)⟩ where
  proper := {
    whole_digits := by simpa using firstDigit
    whole_nonempty := List.cons_ne_nil _ _
    no_leading_zero _ := rfl
    fraction_digits := fractionDigits
    exponent_digits := by
      rintro _ _ ⟨⟩
      exact ⟨natText_ne_nil _, fun _ mem => isDigit_of_mem_natText mem⟩ }
  text_eq := by
    rw [toList_signed, written]
    simp [NumberParts.text]
  negative_eq := rfl
  not_whole := .inr nofun
  value_eq := by
    have shift : NumberParts.shift ⟨negative, [first], fraction,
        some (decide (exponent < 0), (toString exponent.natAbs).toList)⟩ = exponent := by
      by_cases down : exponent < 0
      · simp only [NumberParts.shift, down, decide_true, digitsValue_natText]
        omega
      · simp only [NumberParts.shift, down, decide_false, digitsValue_natText]
        omega
    rw [NumberParts.value, shift, ← value]
    rfl

theorem isTextOf_scientific (d : Digits) (negative : Bool) :
    ∃ parts, IsTextOf (Layout.json.scientific d
      (d.exponent + ((toString d.digits).length : Int) - 1)) negative d parts := by
  have natDigits : ∀ c ∈ (toString d.digits).toList, c.isDigit = true :=
    fun _ mem => isDigit_of_mem_natText mem
  have nonempty := natText_ne_nil d.digits
  have number := digitsValue_natText d.digits
  rw [Layout.scientific, ← String.length_toList]
  generalize (toString d.digits).toList = digits at *
  obtain ⟨first, others, rfl⟩ := List.exists_cons_of_ne_nil nonempty
  obtain ⟨firstDigit, otherDigits⟩ := List.forall_mem_cons.mp natDigits
  generalize leading : d.exponent + ((first :: others).length : Int) - 1 = exponent
  cases others with
  | nil =>
      refine ⟨_, @isTextOf_exponent d _ first none exponent negative firstDigit nofun ?_ ?_⟩
      · dsimp only
        rw [String.append_assoc, String.toList_append, toList_exponent, String.toList_ofList]
        rfl
      · rw [Digits.value, ← number, ← leading]
        simp
  | cons second others =>
      refine ⟨_, @isTextOf_exponent d _ first (some (second :: others)) exponent negative firstDigit
        ?_ ?_ ?_⟩
      · rintro _ ⟨⟩
        exact ⟨List.cons_ne_nil _ _, otherDigits⟩
      · dsimp only
        rw [String.append_assoc, String.toList_append, toList_exponent, String.toList_ofList]
        rfl
      · have places : exponent - ((second :: others).length : Int) = d.exponent := by
          simp only [List.length_cons] at leading ⊢
          omega
        rw [Digits.value, ← number, ← places]
        rfl

/-! ## Floating point numbers -/

/-- The text of a floating point number that is not zero. -/
theorem isTextOf_magnitude {b : Binary} (double : b.IsDouble) (negative : Bool) :
    ∃ parts, IsTextOf (Layout.json.magnitude b) negative (b.shortest .even) parts := by
  obtain ⟨positive, -⟩ := Binary.admits_shortest double .even
  unfold Layout.magnitude
  change ∃ parts, IsTextOf (if (_ : Bool) then _ else _) negative _ parts
  split
  · exact isTextOf_fixed positive negative
  · exact isTextOf_scientific _ negative

theorem NumberParts.exactly?_of_not_whole {parts : NumberParts}
    (notWhole : parts.fraction ≠ none ∨ parts.exponent ≠ none) :
    parts.exactly? = (Decimal.nearest? parts.negative parts.value).map .float := by
  rw [exactly?]
  split
  · rename_i noFraction noExponent
    exact absurd noExponent (notWhole.resolve_left (not_not_intro noFraction))
  · rfl

/-- A floating point number has digits. -/
def IsFinite (x : Float) : Prop :=
  match Decimal.parts x with
  | .nan | .infinite _ => False
  | .zero _ | .finite _ _ => True

/-- Floating point numbers are read back. -/
theorem exists_parts_write {x : Float} (finite : IsFinite x) :
    ∃ parts : NumberParts, parts.Proper ∧ (Layout.json.write x).toList = parts.text ∧
      parts.exactly? = some (.float x) := by
  unfold IsFinite at finite
  rw [Layout.write]
  cases of : Decimal.parts x with
  | nan => simp [of] at finite
  | infinite => simp [of] at finite
  | zero negative =>
      have value : digitsValue (['0'] ++ ['0']) * (10 : ℚ) ^ (-(['0'].length : ℤ)) =
          Digits.value ⟨0, 0⟩ := by
        have zero : digitsValue (['0'] ++ ['0']) = 0 := rfl
        rw [Digits.value, zero]
        simp
      have isText : IsTextOf "0.0" negative ⟨0, 0⟩ ⟨negative, ['0'], some ['0'], none⟩ :=
        isTextOf_positional negative (by simp) (by simp) (by simp) (by simp) (by simp) rfl value
      refine ⟨_, isText.proper, isText.text_eq, ?_⟩
      have zero : Digits.value ⟨0, 0⟩ = 0 := by simp [Digits.value]
      rw [NumberParts.exactly?_of_not_whole isText.not_whole, isText.value_eq, zero,
        Decimal.nearest?_zero of]
      rfl
  | finite negative b =>
      obtain ⟨double, -⟩ := Decimal.parts_finite of
      obtain ⟨parts, isText⟩ := isTextOf_magnitude double negative
      refine ⟨parts, isText.proper, isText.text_eq, ?_⟩
      rw [NumberParts.exactly?_of_not_whole isText.not_whole, isText.negative_eq, isText.value_eq,
        Decimal.nearest?_of_admits of (Binary.admits_shortest double .even).2]
      rfl

end Polyquery.Json
