/-!
# Quoting in SQL

Names and strings stand between quotation marks.  Inside, the mark itself is
doubled; the richer form also writes some control characters and the backslash
with a backslash in front.
-/

namespace Polyquery.Sql

/-- A character between quotation marks, with the mark doubled. -/
def doubledChar (mark c : Char) : List Char :=
  if c = mark then [c, c] else [c]

/-- A character between quotation marks, with escapes.  The escapes take
precedence over doubling. -/
def escapedChar (mark c : Char) : List Char :=
  if c = '\x00' then ['\\', '0']
  else if c = '\x08' then ['\\', 'b']
  else if c = '\t' then ['\\', 't']
  else if c = '\x1a' then ['\\', 'Z']
  else if c = '\n' then ['\\', 'n']
  else if c = '\r' then ['\\', 'r']
  else if c = '\\' then ['\\', '\\']
  else doubledChar mark c

/-- A text with the mark doubled. -/
def doubled (mark : Char) (text : String) : String :=
  String.ofList (text.toList.flatMap (doubledChar mark))

/-- A text with escapes and the mark doubled. -/
def escaped (mark : Char) (text : String) : String :=
  String.ofList (text.toList.flatMap (escapedChar mark))

/-- A text between two marks. -/
def enclosed (mark : Char) (text : String) : String :=
  String.singleton mark ++ text ++ String.singleton mark

/-- A name between marks. -/
def quoteName (mark : Char) (name : String) : String :=
  enclosed mark (doubled mark name)

end Polyquery.Sql
