import Polyquery.Text.Ranges
import Polyquery.Url.Pieces

/-!
# Tables of characters

A table of characters is written as a text of words.  Characters stand in it as
hexadecimal numbers, and marks of ASCII tie the characters of a word together.
-/

namespace Polyquery.Url.Domain

/-- The words of a text. -/
def words (text : String) : List (List Char) :=
  ((pieces ' ' (text.toList.map fun c => if c = '\n' then ' ' else c)).filter fun word =>
    !word.isEmpty)

/-- The numbers in a word between the places where a mark stands. -/
def numbers (mark : Char) (word : List Char) : List Nat :=
  (pieces mark word).map (number 16)

/-- The first and the last number of a range, which are the same if the range is
written as one number. -/
def rangeOf (word : List Char) : Nat × Nat :=
  let ends := numbers '-' word
  (ends.headD 0, ends.getLastD 0)

/-- A set of characters: each word is a range. -/
def rangesOf (text : String) : Text.Ranges :=
  (words text).map rangeOf

/-- The parts of a word before and after the sign for a replacement. -/
def sides (word : List Char) : List Char × List Char :=
  (word.takeWhile (· ≠ '>'), (word.dropWhile (· ≠ '>')).drop 1)

/-- A range of characters, and what the first of them becomes. -/
structure Shift where
  first : Nat
  last : Nat
  target : Nat

/-- Shifts: each word is a range and the target of its first character. -/
def shiftsOf (text : String) : List Shift :=
  (words text).map fun word =>
    let range := rangeOf (sides word).1
    ⟨range.1, range.2, number 16 (sides word).2⟩

/-- Replacements: each word is a character and the texts that replace it and the
characters after it. -/
def replacementsOf (text : String) : List (Nat × List (List Char)) :=
  (words text).map fun word =>
    (number 16 (sides word).1,
      (pieces ',' (sides word).2).map fun target => (numbers '.' target).map Char.ofNat)

/-- Characters made of two: each word is both parts and the whole. -/
def wholesOf (text : String) : List (Char × Char × Char) :=
  (words text).filterMap fun word =>
    match (numbers '.' word).map Char.ofNat with
    | [first, second, whole] => some (first, second, whole)
    | _ => none

end Polyquery.Url.Domain
