import Polyquery.Fields

/-!
# JSON values

Numbers keep the difference between whole numbers and floating point numbers,
because the two print differently and become different column values.  Objects
are entries in the order in which they print; objects that are read are sorted
by name.
-/

namespace Polyquery

/-- A JSON number: a whole number of at most 64 bits, or a floating point
number. -/
inductive Number where
  | int (n : Int)
  | float (x : Float)
deriving DecidableEq

/-- A JSON value. -/
inductive Json where
  | null
  | bool (b : Bool)
  | num (n : Number)
  | str (s : String)
  | arr (items : List Json)
  | obj (fields : List (String × Json))
deriving Inhabited

/-- One record of a table, by column name. -/
abbrev Row := Fields Json

namespace Number

/-- The bounds of signed 64-bit numbers. -/
def fitsSigned (n : Int) : Bool :=
  -9223372036854775808 ≤ n && n < 9223372036854775808

/-- The whole numbers that JSON text keeps exactly: signed and unsigned numbers
of 64 bits. -/
def fitsWhole (n : Int) : Bool :=
  -9223372036854775808 ≤ n && n < 18446744073709551616

end Number

namespace Json

/-- A whole number. -/
def int (n : Int) : Json :=
  .num (.int n)

/-- A whole number counted from zero. -/
def nat (n : Nat) : Json :=
  .int n

/-- A list of strings. -/
def strings (items : List String) : Json :=
  .arr (items.map .str)

/-- The value of a field; `null` for a missing field and for anything but an
object. -/
def field (name : String) : Json → Json
  | .obj fields => (Fields.find? name fields).getD .null
  | _ => .null

/-- The value of a field that is present. -/
def field? (name : String) : Json → Option Json
  | .obj fields => Fields.find? name fields
  | _ => none

def isNull : Json → Bool
  | .null => true
  | _ => false

def asString? : Json → Option String
  | .str s => some s
  | _ => none

def asBool? : Json → Option Bool
  | .bool b => some b
  | _ => none

def asArray? : Json → Option (List Json)
  | .arr items => some items
  | _ => none

def asObject? : Json → Option (List (String × Json))
  | .obj fields => some fields
  | _ => none

/-- A number without fraction and sign. -/
def asNat? : Json → Option Nat
  | .num (.int n) => if 0 ≤ n then some n.toNat else none
  | _ => none

end Json

end Polyquery
