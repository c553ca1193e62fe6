import Polyquery.Value

/-!
# Casts of text parameters

Strings are sent as text, so a string for a column of another type needs a cast.
Which types the parameters have is asked of the server: the statement is prepared
with strings declared as unknown, and each parameter that turns out not to be
textual is replaced by a cast of the text.
-/

namespace Polyquery.Postgres

/-- How a parameter is declared when its type is asked for. -/
inductive Declared where
  | unknown
  | bool
  | int8
  | float8
  | timestamp
deriving DecidableEq

namespace Declared

def name : Declared → String
  | unknown => "unknown"
  | bool => "bool"
  | int8 => "int8"
  | float8 => "float8"
  | timestamp => "timestamp"

/-- The number of the type in the catalogue of the server. -/
def oid : Declared → Nat
  | unknown => 705
  | bool => 16
  | int8 => 20
  | float8 => 701
  | timestamp => 1114

/-- The declaration of a value: strings and nulls fit any type. -/
def ofValue : Value → Declared
  | .null | .str _ => unknown
  | .bool _ => bool
  | .int _ => int8
  | .float _ => float8
  | .date _ => timestamp

end Declared

/-- The statement with which types are asked for.  The comment keeps it apart
from the statement that is run. -/
def inferenceText (sql : String) (values : List Value) : String :=
  "/* params: " ++ ",".intercalate (values.map fun v => (Declared.ofValue v).name) ++ " */ " ++ sql

/-- The types whose values are sent as their text. -/
def textualTypes : List String :=
  ["TEXT", "VARCHAR", "BPCHAR", "NAME", "UNKNOWN", "CITEXT"]

def isTextual (type : String) : Bool :=
  textualTypes.contains (String.ofList (type.toList.map Char.toUpper))

/-- The numbers of the string parameters that need a cast, counted from `first`,
with their types. -/
def textCasts (first : Nat) : List String → List Value → List (Nat × String)
  | type :: types, .str _ :: values =>
    if isTextual type then textCasts (first + 1) types values
    else (first, type) :: textCasts (first + 1) types values
  | _ :: types, _ :: values => textCasts (first + 1) types values
  | _, _ => []

/-- The number that decimal digits stand for; none for no digits. -/
def parameter? (digits : List Char) : Option Nat :=
  if digits.isEmpty then none
  else some (digits.foldl (fun n c => 10 * n + (c.toNat - '0'.toNat)) 0)

/-- The spelling of the parameter with the given digits. -/
def spellParameter (casts : List (Nat × String)) (digits : List Char) : List Char :=
  match (parameter? digits).bind fun n => casts.lookup n with
  | some type => "($".toList ++ digits ++ "::text)::".toList ++ type.toList
  | none => '$' :: digits

/-- Put casts into a text.  What stands in quotation marks is copied; `mark` is
the mark that is open. -/
def castText (casts : List (Nat × String)) (mark : Option Char) : List Char → List Char
  | [] => []
  | c :: rest =>
    match mark with
    | some closing => c :: castText casts (if c = closing then none else mark) rest
    | none =>
      if c = '\'' ∨ c = '"' then c :: castText casts (some c) rest
      else if c = '$' then
        spellParameter casts (rest.takeWhile Char.isDigit) ++
          castText casts none (rest.dropWhile Char.isDigit)
      else c :: castText casts none rest
termination_by text => text.length
decreasing_by
  · simp
  · simp
  · have shorter := (List.dropWhile_suffix (l := rest) Char.isDigit).length_le
    simp only [List.length_cons]
    omega
  · simp

/-- A statement with casts for its text parameters. -/
def withCasts (casts : List (Nat × String)) (sql : String) : String :=
  String.ofList (castText casts none sql.toList)

end Polyquery.Postgres
