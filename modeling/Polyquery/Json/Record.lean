import Polyquery.Json.Reader

/-!
# Records in JSON

A record with known fields is written as an object, where unknown names are
ignored and no known name may occur twice, or as an array of the values of its
fields in order, where fields at the end may be missing.  A reader of a record
gets the written values of its fields and decides about defaults.
-/

namespace Polyquery.Json

namespace Source

mutual

/-- A value as it would be written. -/
def ofJson : Json → Source
  | .null => .null
  | .bool b => .bool b
  | .num n => .num (some n)
  | .str s => .str (some s)
  | .arr items => .arr (ofItems items)
  | .obj fields => .obj (ofFields fields)

/-- The elements of an array as they would be written. -/
def ofItems : List Json → List Source
  | [] => []
  | item :: rest => ofJson item :: ofItems rest

/-- The fields of an object as they would be written. -/
def ofFields : List (String × Json) → List (Option String × Source)
  | [] => []
  | (key, value) :: rest => (some key, ofJson value) :: ofFields rest

end

/-- The value of a field that is written at most once: none in the outer option
if it is written more often. -/
def single? (fields : List (Option String × Source)) (name : String) : Option (Option Source) :=
  match fields.filter fun field => field.1 = some name with
  | [] => some none
  | [field] => some (some field.2)
  | _ => none

/-- The written values of the fields of an object, in the order of `names`. -/
def namedFields? (names : List String) (fields : List (Option String × Source)) :
    Option (List (Option Source)) :=
  if fields.all fun field => field.1.isSome then names.mapM (single? fields) else none

/-! ## Readers -/

/-- A reader of a written value.  The number says how many arrays and objects
may be nested in it; what a reader ignores does not count. -/
abbrev Reader (α : Type) := Nat → Source → Option α

/-- The written values of the fields of a record, in the order of `names`. -/
def record? (names : List String) : Source → Option (List (Option Source))
  | .obj fields => namedFields? names fields
  | .arr items =>
    if items.length ≤ names.length then
      some (items.map some ++ List.replicate (names.length - items.length) none)
    else none
  | _ => none

/-- Read a record from the written values of its fields. -/
def record {α : Type} (names : List String) (read : Nat → List (Option Source) → Option α) :
    Reader α
  | 0, _ => none
  | depth + 1, source => (record? names source).bind (read depth)

def text : Reader String
  | _, .str s => s
  | _, _ => none

def truth : Reader Bool
  | _, .bool b => some b
  | _, _ => none

/-- A whole number from zero to a largest value. -/
def natUpTo (largest : Nat) : Reader Nat
  | _, .num (some (.int n)) => if 0 ≤ n && n ≤ largest then some n.toNat else none
  | _, _ => none

/-- Any value. -/
def any : Reader Json :=
  fun depth source => source.value? depth

/-- The fields of an object of any values, sorted by name. -/
def entries : Reader (Fields Json) :=
  fun depth source => (source.value? depth).bind Json.asObject?

/-- A value that may be null. -/
def nullable {α : Type} (read : Reader α) : Reader (Option α)
  | _, .null => some none
  | depth, source => (read depth source).map some

/-- A list of values. -/
def list {α : Type} (read : Reader α) : Reader (List α)
  | depth + 1, .arr items => items.mapM (read depth)
  | _, _ => none

/-- A field with a default. -/
def fieldOr {α : Type} (default : α) (read : Reader α) (depth : Nat) : Option Source → Option α
  | none => some default
  | some source => read depth source

/-- A field that has to be written. -/
def required {α : Type} (read : Reader α) (depth : Nat) : Option Source → Option α
  | none => none
  | some source => read depth source

end Source

end Polyquery.Json
