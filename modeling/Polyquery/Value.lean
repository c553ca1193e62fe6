import Polyquery.Json.Printer
import Polyquery.Text.Quoted
import Polyquery.Timestamp

/-!
# Column values

A `Value` is what a literal of a query holds and what is bound to a parameter.
JSON scalars become values, lists and objects become their compact text.  Only
values of one family can be compared; whole and floating point numbers are one
family.
-/

namespace Polyquery

/-- A value of a column.  Whole numbers have 64 bits with a sign. -/
inductive Value where
  | null
  | bool (b : Bool)
  | int (n : Int)
  | float (x : Float)
  | str (s : String)
  | date (t : Timestamp)
deriving DecidableEq

namespace Value

/-- The value of a JSON value.  A whole number that does not fit 64 bits with a
sign becomes a floating point number. -/
def ofJson : Json → Value
  | .null => .null
  | .bool b => .bool b
  | .num (.int n) => if Number.fitsSigned n then .int n else .float (Float.ofInt n)
  | .num (.float x) => .float x
  | .str s => .str s
  | .arr items => .str (Json.compact (.arr items))
  | .obj fields => .str (Json.compact (.obj fields))

/-- A floating point number as a JSON value: only finite numbers have one. -/
def floatJson (x : Float) : Json :=
  if x.isFinite then .num (.float x) else .null

/-- The JSON value of a value.  Dates become their text. -/
def toJson : Value → Json
  | .null => .null
  | .bool b => .bool b
  | .int n => .int n
  | .float x => floatJson x
  | .str s => .str s
  | .date t => .str t.display

def isNull : Value → Bool
  | .null => true
  | _ => false

/-- The name of the family of a value. -/
def typeName : Value → String
  | .null => "null"
  | .bool _ => "boolean"
  | .int _ => "number"
  | .float _ => "number"
  | .str _ => "string"
  | .date _ => "date"

/-- The form in which a value is shown. -/
def display : Value → String
  | .null => "null"
  | .bool true => "true"
  | .bool false => "false"
  | .int n => toString n
  | .float x => Decimal.Layout.plain.write x
  | .str s => Text.shown s
  | .date t => t.display

/-- The form in which a value stands inside a description of a literal. -/
def described : Value → String
  | .null => "Null"
  | .bool true => "Bool(true)"
  | .bool false => "Bool(false)"
  | .int n => "Int(" ++ toString n ++ ")"
  | .float x => "Float(" ++ Decimal.Layout.described.write x ++ ")"
  | .str s => "Str(" ++ Text.shown s ++ ")"
  | .date t => "Date(" ++ t.described ++ ")"

/-- The order of two floating point numbers; none if one is not a number. -/
def compareFloat (x y : Float) : Option Ordering :=
  if x < y then some .lt
  else if x == y then some .eq
  else if y < x then some .gt
  else none

/-- The order of two truth values: false comes first. -/
def compareBool : Bool → Bool → Ordering
  | false, true => .lt
  | true, false => .gt
  | _, _ => .eq

/-- The order of two strings by code points. -/
def compareText (a b : String) : Ordering :=
  if a < b then .lt else if a = b then .eq else .gt

/-- The order of two values.  Values of different families have none, and null
has none at all.  A whole number is compared with a floating point number after
rounding. -/
def compare : Value → Value → Option Ordering
  | .bool a, .bool b => some (compareBool a b)
  | .int a, .int b => some (Ord.compare a b)
  | .float a, .float b => compareFloat a b
  | .int a, .float b => compareFloat (Float.ofInt a) b
  | .float a, .int b => compareFloat a (Float.ofInt b)
  | .str a, .str b => some (compareText a b)
  | .date a, .date b => some (a.order b)
  | _, _ => none

end Value

end Polyquery
