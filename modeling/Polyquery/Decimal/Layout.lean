import Polyquery.Decimal.Shortest

/-!
# Layouts of floating point text

The digits of a number are one thing, the way they are laid out is another.  A
`Layout` says which magnitudes are written positionally, whether a whole number
keeps a fraction, and how exponents and special values look.  The three layouts
of this library differ only in that record.
-/

namespace Polyquery.Decimal

/-- How the digits of a floating point number are laid out. -/
structure Layout where
  /-- The decimal exponents of the leading digit that are written without
  exponent notation; `none` writes every number positionally. -/
  positional : Option (Int × Int)
  /-- Whether a whole number is written with `.0`. -/
  wholeFraction : Bool
  /-- Whether a positive exponent carries a plus sign. -/
  exponentPlus : Bool
  /-- The text of the value that is not a number. -/
  notANumber : String
  /-- The text of positive infinity. -/
  infinity : String
  /-- Which of two equally near decimals is written. -/
  tie : Tie
deriving Repr, DecidableEq

/-- A sign, if the number is negative. -/
def signed (negative : Bool) (text : String) : String :=
  if negative then "-" ++ text else text

/-- A run of zeros. -/
def zeros (n : Nat) : String :=
  String.ofList (List.replicate n '0')

namespace Layout

/-- The decimal `digits * 10 ^ exponent` without exponent notation. -/
def fixed (layout : Layout) (d : Digits) : String :=
  let text := toString d.digits
  let whole := if layout.wholeFraction then ".0" else ""
  if 0 ≤ d.exponent then text ++ zeros d.exponent.toNat ++ whole
  else
    let places := (-d.exponent).toNat
    let cs := text.toList
    if cs.length ≤ places then "0." ++ zeros (places - cs.length) ++ text
    else
      String.ofList (cs.take (cs.length - places)) ++ "." ++
        String.ofList (cs.drop (cs.length - places))

/-- The decimal with one digit before the point and an exponent. -/
def scientific (layout : Layout) (d : Digits) (exponent : Int) : String :=
  let mark := if 0 ≤ exponent && layout.exponentPlus then "e+" else "e"
  match (toString d.digits).toList with
  | [] => mark ++ toString exponent
  | [c] => String.ofList [c] ++ mark ++ toString exponent
  | c :: cs => String.ofList (c :: '.' :: cs) ++ mark ++ toString exponent

/-- The text of the magnitude of a number that is not zero. -/
def magnitude (layout : Layout) (b : Binary) : String :=
  let d := b.shortest layout.tie
  let leading := d.exponent + ((toString d.digits).length : Int) - 1
  match layout.positional with
  | none => layout.fixed d
  | some (low, high) =>
    if low ≤ leading && leading ≤ high then layout.fixed d else layout.scientific d leading

/-- The text of a floating point number. -/
def write (layout : Layout) (x : Float) : String :=
  match parts x with
  | .nan => layout.notANumber
  | .infinite negative => signed negative layout.infinity
  | .zero negative => signed negative (if layout.wholeFraction then "0.0" else "0")
  | .finite negative b => signed negative (layout.magnitude b)

/-- Never an exponent and no fraction for whole numbers: the text of a number
in a display form and in SQL. -/
def plain : Layout :=
  ⟨none, false, false, "NaN", "inf", .up⟩

/-- The text of a number in JSON, which has no special values of its own. -/
def json : Layout :=
  ⟨some (-5, 15), true, true, "null", "null", .even⟩

/-- The text of a number inside a description of a literal. -/
def described : Layout :=
  ⟨some (-4, 15), true, false, "NaN", "inf", .up⟩

end Layout

end Polyquery.Decimal
