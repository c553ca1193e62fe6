import Polyquery.Text.Hidden

/-!
# Strings shown for inspection

A string in a display form stands in double quotation marks.  The quotation
mark, the backslash and the usual control characters are escaped by a letter,
every other character without a glyph of its own by its number.
-/

namespace Polyquery.Text

/-- The hexadecimal digits of a code point, without leading zeros. -/
def hexText (c : Char) : List Char :=
  Nat.toDigits 16 c.toNat

/-- A character as it stands between double quotation marks. -/
def shownChar (c : Char) : List Char :=
  if c = '\x00' then ['\\', '0']
  else if c = '\t' then ['\\', 't']
  else if c = '\n' then ['\\', 'n']
  else if c = '\r' then ['\\', 'r']
  else if c = '"' then ['\\', '"']
  else if c = '\\' then ['\\', '\\']
  else if isHidden c then ['\\', 'u', '\x7b'] ++ hexText c ++ ['\x7d']
  else [c]

/-- A string in double quotation marks. -/
def shown (s : String) : String :=
  "\"" ++ String.ofList (s.toList.flatMap shownChar) ++ "\""

end Polyquery.Text
