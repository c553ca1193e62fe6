import Polyquery.Json.Basic
import Polyquery.Decimal.Layout

/-!
# JSON text

`compact` writes a value without any white space, `pretty` over several lines
with two spaces per level.  Strings escape the quotation mark, the backslash
and the control characters below U+0020, and nothing else.
-/

namespace Polyquery.Json

/-- The hexadecimal digit of a number below sixteen. -/
def hexDigit (n : Nat) : Char :=
  if n < 10 then Char.ofNat (48 + n) else Char.ofNat (87 + n)

/-- A character as it stands inside a JSON string. -/
def escapeChar (c : Char) : List Char :=
  if c = '"' then ['\\', '"']
  else if c = '\\' then ['\\', '\\']
  else if c = '\x08' then ['\\', 'b']
  else if c = '\x0c' then ['\\', 'f']
  else if c = '\n' then ['\\', 'n']
  else if c = '\r' then ['\\', 'r']
  else if c = '\t' then ['\\', 't']
  else if c.toNat < 32 then
    ['\\', 'u', '0', '0', hexDigit (c.toNat / 16), hexDigit (c.toNat % 16)]
  else [c]

/-- A string in quotation marks. -/
def quote (s : String) : String :=
  "\"" ++ String.ofList (s.toList.flatMap escapeChar) ++ "\""

/-- The text of a number. -/
def numberText : Number → String
  | .int n => toString n
  | .float x => Decimal.Layout.json.write x

mutual

/-- The text of a value without white space. -/
def compact : Json → String
  | .null => "null"
  | .bool true => "true"
  | .bool false => "false"
  | .num n => numberText n
  | .str s => quote s
  | .arr items => "[" ++ compactItems items ++ "]"
  | .obj fields => "\x7b" ++ compactFields fields ++ "\x7d"

/-- The elements of a list, separated by commas. -/
def compactItems : List Json → String
  | [] => ""
  | [item] => compact item
  | item :: next :: rest => compact item ++ "," ++ compactItems (next :: rest)

/-- The fields of an object, separated by commas. -/
def compactFields : List (String × Json) → String
  | [] => ""
  | [(key, value)] => quote key ++ ":" ++ compact value
  | (key, value) :: next :: rest =>
    quote key ++ ":" ++ compact value ++ "," ++ compactFields (next :: rest)

end

/-- A line break followed by the indentation of a level. -/
def lineBreak (level : Nat) : String :=
  "\n" ++ String.ofList (List.replicate (2 * level) ' ')

mutual

/-- The text of a value over several lines, inside `level` levels. -/
def prettyAt (level : Nat) : Json → String
  | .arr [] => "[]"
  | .arr items => "[" ++ prettyItems (level + 1) items ++ lineBreak level ++ "]"
  | .obj [] => "\x7b\x7d"
  | .obj fields => "\x7b" ++ prettyFields (level + 1) fields ++ lineBreak level ++ "\x7d"
  | .null => "null"
  | .bool true => "true"
  | .bool false => "false"
  | .num n => numberText n
  | .str s => quote s

/-- The elements of a list, one on each line. -/
def prettyItems (level : Nat) : List Json → String
  | [] => ""
  | [item] => lineBreak level ++ prettyAt level item
  | item :: next :: rest =>
    lineBreak level ++ prettyAt level item ++ "," ++ prettyItems level (next :: rest)

/-- The fields of an object, one on each line. -/
def prettyFields (level : Nat) : List (String × Json) → String
  | [] => ""
  | [(key, value)] => lineBreak level ++ quote key ++ ": " ++ prettyAt level value
  | (key, value) :: next :: rest =>
    lineBreak level ++ quote key ++ ": " ++ prettyAt level value ++ "," ++
      prettyFields level (next :: rest)

end

/-- The text of a value over several lines. -/
def pretty (value : Json) : String :=
  prettyAt 0 value

end Polyquery.Json
