import Polyquery.Decimal.Layout
import Polyquery.Decimal.Rounded
import Polyquery.Sqlite.Numeral
import Polyquery.Text.Occurs
import Polyquery.Value

/-!
# Cells of SQLite

What SQLite stores: every cell has a storage class of its own, and the declared
type of a column only prefers one.  Cells are ordered by class first: null,
numbers, texts, bytes.
-/

namespace Polyquery.Sqlite

/-- A stored value. -/
inductive Cell where
  | null
  | int (n : Int)
  | real (x : Float)
  | text (s : String)
  | blob (bytes : List Nat)
deriving DecidableEq

namespace Cell

/-- What is bound for a value: truth values are numbers, dates are texts. -/
def ofValue : Value → Cell
  | .null => null
  | .bool b => int (if b then 1 else 0)
  | .int n => int n
  | .float x => if x.isNaN then null else real x
  | .str s => text s
  | .date t => text t.display

/-- A cell in a record.  Bytes become a list of numbers. -/
def toJson : Cell → Json
  | null => .null
  | int n => .int n
  | real x => Value.floatJson x
  | text s => .str s
  | blob bytes => .arr (bytes.map Json.nat)

/-- A truth value as a number. -/
def ofBool (b : Bool) : Cell :=
  int (if b then 1 else 0)

/-! ### Order -/

/-- The order of a whole number and a floating point number, without rounding. -/
def compareExactly (n : Int) (x : Float) : Ordering :=
  match Decimal.parts x with
  | .nan => .gt
  | .infinite negative => if negative then .gt else .lt
  | .zero _ => Ord.compare n 0
  | .finite negative b =>
    let size : Int := b.mantissa * Nat.pow 2 b.exponent.toNat
    Ord.compare (n * Nat.pow 2 (-b.exponent).toNat) (if negative then -size else size)

/-- The order of two lists of bytes. -/
def compareBytes : List Nat → List Nat → Ordering
  | [], [] => .eq
  | [], _ => .lt
  | _, [] => .gt
  | a :: as, b :: bs => (Ord.compare a b).then (compareBytes as bs)

/-- The place of the storage class in the order. -/
def rank : Cell → Nat
  | null => 0
  | int _ => 1
  | real _ => 1
  | text _ => 2
  | blob _ => 3

/-- The order of all cells. -/
def order : Cell → Cell → Ordering
  | int a, int b => Ord.compare a b
  | int a, real b => compareExactly a b
  | real a, int b => (compareExactly b a).swap
  | real a, real b => (Value.compareFloat a b).getD .eq
  | text a, text b => Value.compareText a b
  | blob a, blob b => compareBytes a b
  | a, b => Ord.compare a.rank b.rank

/-! ### Conversions -/

/-- The whole number that a floating point number is, if it is one strictly
inside 64 bits. -/
def wholeReal? (x : Float) : Option Int :=
  let n := x.toInt64.toInt
  if -9223372036854775808 < n && n < 9223372036854775807 && Float.ofInt n == x then some n else none

/-- The number that a text is: whole if it is written so and has at most 64
bits. -/
def ofNumeral (numeral : Numeral) : Cell :=
  match numeral.toInt? with
  | some n => if Number.fitsSigned n then int n else real numeral.toFloat
  | none => real numeral.toFloat

/-- A text that is a number becomes that number. -/
def toNumber : Cell → Cell
  | text s => ((Numeral.ofText? s).map ofNumeral).getD (text s)
  | other => other

/-- Digits without the zeros at their end. -/
def trimZeros (digits : List Char) : List Char :=
  (digits.reverse.dropWhile (· = '0')).reverse

/-- An exponent with a sign and at least two digits. -/
def exponentText (exponent : Int) : String :=
  let digits := toString exponent.natAbs
  (if exponent < 0 then "e-" else "e+") ++ (if digits.length < 2 then "0" ++ digits else digits)

/-- The text of a positive floating point number: fifteen digits at most, with a
point always, and an exponent for small and large numbers. -/
def magnitudeText (b : Decimal.Binary) : String :=
  let rounded := b.rounded 15
  let digits := (toString rounded.digits).toList
  let leading := rounded.exponent + (digits.length : Int) - 1
  let kept := trimZeros digits
  if leading < -4 || 14 < leading then
    String.ofList (kept.take 1) ++ "." ++
      (if kept.length < 2 then "0" else String.ofList (kept.drop 1)) ++ exponentText leading
  else
    Decimal.Layout.json.fixed
      ⟨Json.digitsValue kept, leading - (kept.length : Int) + 1⟩

/-- The text of a floating point number. -/
def realText (x : Float) : String :=
  match Decimal.parts x with
  | .nan => "NaN"
  | .infinite negative => Decimal.signed negative "Inf"
  | .zero _ => "0.0"
  | .finite negative b => Decimal.signed negative (magnitudeText b)

/-- A number becomes its text. -/
def toText : Cell → Cell
  | int n => text (toString n)
  | real x => text (realText x)
  | other => other

/-- A number as a truth value: everything but zero is true.  A text counts as
the number at its front; null has no truth value. -/
def truth? : Cell → Option Bool
  | null => none
  | int n => some (n ≠ 0)
  | real x => some (x != 0.0)
  | text s => some (((Numeral.read? s.toList).map fun (n, _) => n.toFloat != 0.0).getD false)
  | blob bytes =>
    let front := Numeral.read? (bytes.map Char.ofNat)
    some ((front.map fun (n, _) => n.toFloat != 0.0).getD false)

end Cell

/-- The storage class that a column prefers. -/
inductive Affinity where
  | integer
  | text
  | blob
  | real
  | numeric
deriving DecidableEq

namespace Affinity

/-- The storage class that a declared type prefers: it depends on which words
occur in the type. -/
def ofType (type : String) : Affinity :=
  let holds (word : String) : Bool := Text.occurs word.toList type.toUpper.toList
  if holds "INT" then integer
  else if holds "CHAR" || holds "CLOB" || holds "TEXT" then text
  else if holds "BLOB" || type.isEmpty then blob
  else if holds "REAL" || holds "FLOA" || holds "DOUB" then real
  else numeric

def isNumeric : Affinity → Bool
  | integer | real | numeric => true
  | text | blob => false

/-- A whole floating point number becomes a whole number. -/
def toWhole : Cell → Cell
  | .real x => ((Cell.wholeReal? x).map Cell.int).getD (.real x)
  | other => other

/-- A whole number becomes a floating point number. -/
def toReal : Cell → Cell
  | .int n => .real (Float.ofInt n)
  | .real x => .real (if x == 0.0 then 0.0 else x)
  | other => other

/-- What a column stores for a cell. -/
def store (affinity : Affinity) (cell : Cell) : Cell :=
  match affinity with
  | integer | numeric => toWhole cell.toNumber
  | text => cell.toText
  | blob => cell
  | real => toReal cell.toNumber

/-- The conversion of both sides before they are compared.  Two columns are
converted only if one of them is numeric; against anything else a column's own
preference counts. -/
def comparing : Option Affinity → Option Affinity → Cell → Cell
  | some a, some b => if a.isNumeric || b.isNumeric then Cell.toNumber else id
  | some a, none | none, some a =>
    if a.isNumeric then Cell.toNumber
    else if a = text then Cell.toText
    else id
  | none, none => id

end Affinity

end Polyquery.Sqlite
