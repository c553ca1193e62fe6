import Polyquery.Decimal.Layout

/-!
# Characters of numbers

Whole numbers are written with digits and a sign.  Without exponents, the text of a
floating point number has nothing but digits, a point and a sign, or it is one of
the names of the special values.
-/

namespace Polyquery

/-- The characters of numbers and of the names of special values. -/
def isNumeral (c : Char) : Bool :=
  c.isAlphanum || c = '.' || c = '-'

/-- A text in which only numbers are written. -/
def IsNumeral (text : String) : Prop :=
  ∀ c ∈ text.toList, isNumeral c

theorem isDigit_of_mem_natText {n : Nat} {c : Char} (mem : c ∈ (toString n).toList) : c.isDigit := by
  rw [Nat.toString_eq_repr, Nat.toList_repr] at mem
  exact Nat.isDigit_of_mem_toDigits (by decide) (by decide) mem

theorem isNumeral_of_isDigit {c : Char} (digit : c.isDigit) : isNumeral c := by
  simp [isNumeral, Char.isAlphanum, digit]

namespace IsNumeral

variable {first second text : String}

theorem of_all (all : text.toList.all isNumeral) : IsNumeral text :=
  List.all_eq_true.mp all

theorem append (left : IsNumeral first) (right : IsNumeral second) : IsNumeral (first ++ second) := by
  intro c mem
  rw [String.toList_append] at mem
  rcases List.mem_append.mp mem with inFirst | inSecond
  · exact left c inFirst
  · exact right c inSecond

theorem natText (n : Nat) : IsNumeral (toString n) :=
  fun _ mem => isNumeral_of_isDigit (isDigit_of_mem_natText mem)

theorem intText (n : Int) : IsNumeral (toString n) := by
  cases n with
  | ofNat n => exact natText n
  | negSucc n => exact append (of_all (by decide)) (natText (n + 1))

end IsNumeral

namespace Decimal

theorem isNumeral_zeros (n : Nat) : IsNumeral (zeros n) := by
  intro c mem
  rw [zeros, String.toList_ofList] at mem
  rw [List.eq_of_mem_replicate mem]
  decide

theorem isNumeral_signed {negative : Bool} {text : String} (numeral : IsNumeral text) :
    IsNumeral (signed negative text) := by
  cases negative with
  | false => exact numeral
  | true => exact .append (.of_all (by decide)) numeral

namespace Layout

theorem isNumeral_fixed (layout : Layout) (d : Digits) : IsNumeral (layout.fixed d) := by
  have digits : IsNumeral (toString d.digits) := .natText d.digits
  unfold fixed
  by_cases whole : 0 ≤ d.exponent
  · rw [if_pos whole]
    refine .append (.append digits (isNumeral_zeros _)) ?_
    cases layout.wholeFraction <;> exact .of_all (by decide)
  · rw [if_neg whole]
    dsimp only
    split
    · exact .append (.append (.of_all (by decide)) (isNumeral_zeros _)) digits
    · refine .append (.append ?_ (.of_all (by decide))) ?_
      · intro c mem
        rw [String.toList_ofList] at mem
        exact digits c (List.mem_of_mem_take mem)
      · intro c mem
        rw [String.toList_ofList] at mem
        exact digits c (List.mem_of_mem_drop mem)

/-- The text of a floating point number in SQL. -/
theorem isNumeral_plain_write (x : Float) : IsNumeral (plain.write x) := by
  unfold write
  split
  · exact .of_all (by decide)
  · exact isNumeral_signed (.of_all (by decide))
  · exact isNumeral_signed (.of_all (by decide))
  · exact isNumeral_signed (isNumeral_fixed plain _)

end Layout

end Decimal

end Polyquery
