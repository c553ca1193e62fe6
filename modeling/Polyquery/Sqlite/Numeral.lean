import Polyquery.Json.Reader

/-!
# Numbers in texts

SQLite finds numbers at the front of texts.  A text is a number if nothing but
blanks follows.
-/

namespace Polyquery.Sqlite

/-- A number as written: `mantissa * 10 ^ exponent`. -/
structure Numeral where
  negative : Bool
  mantissa : Nat
  exponent : Int
  /-- There is neither a point nor an exponent. -/
  whole : Bool
deriving DecidableEq

namespace Numeral

/-- The blanks around numbers. -/
def isSpace (c : Char) : Bool :=
  c = ' ' || ('\t' ≤ c && c ≤ '\r')

/-- A sign at the front: whether it is a minus, and the rest. -/
def readSign : List Char → Bool × List Char
  | '-' :: rest => (true, rest)
  | '+' :: rest => (false, rest)
  | rest => (false, rest)

/-- The digits at the front and the rest. -/
def readDigits (cs : List Char) : List Char × List Char :=
  (cs.takeWhile Char.isDigit, cs.dropWhile Char.isDigit)

/-- An exponent at the front, which needs a digit. -/
def readExponent? : List Char → Option (Int × List Char)
  | mark :: rest =>
    if mark = 'e' || mark = 'E' then
      let (negative, rest) := readSign rest
      let (digits, rest) := readDigits rest
      let size : Int := Json.digitsValue digits
      if digits.isEmpty then none else some (if negative then -size else size, rest)
    else none
  | [] => none

/-- The number at the front of a text and what follows it. -/
def read? (cs : List Char) : Option (Numeral × List Char) :=
  let (negative, rest) := readSign (cs.dropWhile isSpace)
  let (digits, rest) := readDigits rest
  let (fraction, pointed, rest) : List Char × Bool × List Char := match rest with
    | '.' :: rest => ((readDigits rest).1, true, (readDigits rest).2)
    | rest => ([], false, rest)
  if digits.isEmpty && fraction.isEmpty then none
  else
    let mantissa := Json.digitsValue (digits ++ fraction)
    let shift : Int := -(fraction.length : Int)
    match readExponent? rest with
    | some (exponent, rest) => some (⟨negative, mantissa, shift + exponent, false⟩, rest)
    | none => some (⟨negative, mantissa, shift, !pointed⟩, rest)

/-- The number that a whole text is. -/
def ofText? (text : String) : Option Numeral :=
  match read? text.toList with
  | some (numeral, rest) => if rest.all isSpace then some numeral else none
  | none => none

/-- The nearest floating point number. -/
def toFloat (numeral : Numeral) : Float :=
  let size := (Json.nearest? numeral.mantissa numeral.exponent).getD (1.0 / 0.0)
  if numeral.negative then -size else size

/-- The whole number, if it is written as one. -/
def toInt? (numeral : Numeral) : Option Int :=
  if numeral.whole then some (if numeral.negative then -numeral.mantissa else numeral.mantissa)
  else none

end Numeral

end Polyquery.Sqlite
