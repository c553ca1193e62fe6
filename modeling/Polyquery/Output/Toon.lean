import Polyquery.Json.Printer
import Polyquery.Text.Blank
import Polyquery.Text.Digit
import Polyquery.Text.Word

/-!
# Values as indented text

TOON writes a value over several lines: an object as one line for each field, a
list under a header with its length.  Lists of values without parts stand on the
line of the header, lists of alike records as a table with the names in the
header.  Strings stand without quotation marks where no other reading is possible.

Objects are written in the order of their names.
-/

namespace Polyquery.Output.Toon

/-! ### Names and values without parts -/

/-- A character inside quotation marks. -/
def escapeChar (c : Char) : List Char :=
  if c = '\\' then ['\\', '\\']
  else if c = '"' then ['\\', '"']
  else if c = '\n' then ['\\', 'n']
  else if c = '\r' then ['\\', 'r']
  else if c = '\t' then ['\\', 't']
  else [c]

/-- A text in quotation marks. -/
def quoted (text : String) : String :=
  "\"" ++ String.ofList (text.toList.flatMap escapeChar) ++ "\""

/-- The letters with which a bare name begins. -/
def startsName (c : Char) : Bool :=
  c.isAlpha || c = '_'

/-- The name of a field.  Bare names begin with a letter and go on with the
characters of words and points. -/
def nameText (name : String) : String :=
  match name.toList with
  | [] => quoted name
  | first :: rest =>
    if startsName first && rest.all fun c => Text.isWordChar c || c = '.' then name
    else quoted name

/-- The rest of a text after one digit or more. -/
def afterDigits? : List Char → Option (List Char)
  | [] => none
  | c :: rest => if Text.isDecimalDigit c then some (rest.dropWhile Text.isDecimalDigit) else none

/-- The rest of a text after an exponent, if it begins with one. -/
def afterExponent? : List Char → Option (List Char)
  | 'e' :: '+' :: rest => afterDigits? rest
  | 'e' :: '-' :: rest => afterDigits? rest
  | 'e' :: rest => afterDigits? rest
  | rest => some rest

/-- Whether a text would be read as a number. -/
def looksNumeric (text : List Char) : Bool :=
  let unsigned := match text with
    | '-' :: rest => rest
    | rest => rest
  match afterDigits? unsigned with
  | none => false
  | some rest =>
    let rest := match rest with
      | '.' :: fraction => afterDigits? fraction
      | rest => some rest
    rest.bind afterExponent? == some []

/-- The characters that only stand inside quotation marks. -/
def separators : List Char :=
  [':', '"', '\\', '[', ']', '\x7b', '\x7d', ',', '\n', '\r', '\t']

/-- Whether a text can stand without quotation marks. -/
def isBare (text : String) : Bool :=
  let cs := text.toList
  !(cs.isEmpty || (cs.head?.map Text.isBlank).getD false ||
    (cs.getLast?.map Text.isBlank).getD false ||
    ["true", "false", "null"].contains text || looksNumeric cs ||
    cs.any separators.contains || ['-', ' '].isPrefixOf cs)

/-- The text of a string. -/
def stringText (text : String) : String :=
  if isBare text then text else quoted text

/-- The text of a number.  All numbers are floating point numbers, and zero has no
sign. -/
def numberText : Number → String
  | .int n => Decimal.Layout.plain.write (Float.ofInt n)
  | .float x => if x == 0.0 then "0" else Decimal.Layout.plain.write x

/-- The text of a value without parts. -/
def plainText? : Json → Option String
  | .null => some "null"
  | .bool true => some "true"
  | .bool false => some "false"
  | .num n => some (numberText n)
  | .str s => some (stringText s)
  | .arr _ => none
  | .obj _ => none

/-! ### Lists on one line and tables -/

/-- A line with the depth of its indentation. -/
structure Line where
  depth : Nat
  text : String

/-- The number of items of a list in its header. -/
def countText (items : List Json) : String :=
  "[" ++ toString items.length ++ "]"

/-- A list of values without parts, with its header. -/
def inline? (items : List Json) : Option String :=
  (items.mapM plainText?).map fun texts =>
    countText items ++ ":" ++ (if texts.isEmpty then "" else " " ++ ",".intercalate texts)

/-- The texts of the values of a record, if it has the given names and its values
have no parts. -/
def rowTexts? (names : List String) : Json → Option (List String)
  | .obj fields =>
    if fields.map Prod.fst = names then fields.mapM fun field => plainText? field.2 else none
  | _ => none

/-- The names and the rows of a table, if a list is one: records with the same
names, at least one, whose values have no parts. -/
def table? (items : List Json) : Option (List String × List (List String)) :=
  match items with
  | .obj (field :: fields) :: _ =>
    let names := (field :: fields).map Prod.fst
    (items.mapM (rowTexts? names)).map fun rows => (names, rows)
  | _ => none

/-- The header of a table. -/
def tableHead (items : List Json) (names : List String) : String :=
  countText items ++ "\x7b" ++ ",".intercalate (names.map nameText) ++ "\x7d:"

/-- The lines of the rows of a table. -/
def tableRows (depth : Nat) (rows : List (List String)) : List Line :=
  rows.map fun texts => ⟨depth, ",".intercalate texts⟩

/-- The lines of a list: on the line of its header, as a table, or with the given
lines for its items. -/
def listLines (depth : Nat) (head : String) (items : List Json) (itemLines : List Line) :
    List Line :=
  match inline? items, table? items with
  | some text, _ => [⟨depth, head ++ text⟩]
  | none, some (names, rows) =>
    ⟨depth, head ++ tableHead items names⟩ :: tableRows (depth + 1) rows
  | none, none => ⟨depth, head ++ countText items ++ ":"⟩ :: itemLines

/-- Whether all values are records. -/
def allRecords (items : List Json) : Bool :=
  items.all fun item => item.asObject?.isSome

/-! ### Lines -/

mutual

/-- The lines of the fields of an object. -/
def fields (depth : Nat) : List (String × Json) → List Line
  | [] => []
  | (name, value) :: rest => field depth name value ++ fields depth rest

/-- The lines of one field. -/
def field (depth : Nat) (name : String) : Json → List Line
  | .arr items => listLines depth (nameText name) items (listItems (depth + 1) items)
  | .obj entries => ⟨depth, nameText name ++ ":"⟩ :: fields (depth + 1) entries
  | value => [⟨depth, nameText name ++ ": " ++ (plainText? value).getD ""⟩]

/-- The lines of the items of a list. -/
def listItems (depth : Nat) : List Json → List Line
  | [] => []
  | item :: rest => listItem depth item ++ listItems depth rest

/-- The lines of one item.  A list inside a list is left out unless its values have
no parts. -/
def listItem (depth : Nat) : Json → List Line
  | .arr items => ((inline? items).map fun text => Line.mk depth ("- " ++ text)).toList
  | .obj [] => [⟨depth, "-"⟩]
  | .obj ((name, value) :: rest) => firstField depth name value ++ fields (depth + 1) rest
  | value => [⟨depth, "- " ++ (plainText? value).getD ""⟩]

/-- The lines of the first field of an item, which stands behind the dash.  A list
that is neither on one line nor made of records is written once more below its
header. -/
def firstField (depth : Nat) (name : String) : Json → List Line
  | .arr items =>
    let head := "- " ++ nameText name
    if allRecords items then listLines depth head items (listItems (depth + 1) items)
    else match inline? items with
    | some text => [⟨depth, head ++ text⟩]
    | none =>
      ⟨depth, head ++ countText items ++ ":"⟩ ::
        listLines (depth + 1) "" items (listItems (depth + 2) items)
  | .obj entries => ⟨depth, "- " ++ nameText name ++ ":"⟩ :: fields (depth + 2) entries
  | value => [⟨depth, "- " ++ nameText name ++ ": " ++ (plainText? value).getD ""⟩]

end

/-- The lines of a value. -/
def lines : Json → List Line
  | .obj entries => fields 0 entries
  | .arr items => listLines 0 "" items (listItems 1 items)
  | value => [⟨0, (plainText? value).getD ""⟩]

mutual

/-- A value whose objects are sorted by name. -/
def sorted : Json → Json
  | .arr items => .arr (sortedItems items)
  | .obj entries => .obj (Fields.ofList (sortedFields entries))
  | value => value

def sortedItems : List Json → List Json
  | [] => []
  | item :: rest => sorted item :: sortedItems rest

def sortedFields : List (String × Json) → List (String × Json)
  | [] => []
  | (name, value) :: rest => (name, sorted value) :: sortedFields rest

end

/-- The text of a line. -/
def Line.display (line : Line) : String :=
  String.ofList (List.replicate (2 * line.depth) ' ') ++ line.text

/-- A value as indented text. -/
def write (value : Json) : String :=
  "\n".intercalate ((lines (sorted value)).map Line.display)

end Polyquery.Output.Toon
