/-!
# Tokens of SQL

SQL text is cut into words, names between quotation marks, strings, numbers,
parameters and marks.  The lexer is a machine that takes one character at a
time.  Each lexeme keeps its spelling and the blanks in front of it, because the
text of an expression is the name of its column in a result.

The text is read as SQLite does: names may stand between double quotes or
backticks, a doubled mark stands for one, and a backslash is an ordinary
character.
-/

namespace Polyquery.Sql

/-- The words with a meaning in statements. -/
inductive Keyword where
  | select
  | delete
  | replace
  | into
  | values
  | source
  | condition
  | order
  | by
  | limit
  | offset
  | named
  | ascending
  | descending
  | and
  | or
  | not
  | is
  | null
  | primary
  | key
  | autoincrement
  | unique
  | standard
deriving DecidableEq

/-- The spelling of each word. -/
def Keyword.spellings : List (String × Keyword) :=
  [("SELECT", .select), ("DELETE", .delete), ("REPLACE", .replace), ("INTO", .into),
    ("VALUES", .values), ("FROM", .source), ("WHERE", .condition), ("ORDER", .order), ("BY", .by),
    ("LIMIT", .limit), ("OFFSET", .offset), ("AS", .named), ("ASC", .ascending),
    ("DESC", .descending), ("AND", .and), ("OR", .or), ("NOT", .not), ("IS", .is),
    ("NULL", .null), ("PRIMARY", .primary), ("KEY", .key), ("AUTOINCREMENT", .autoincrement),
    ("UNIQUE", .unique), ("DEFAULT", .standard)]

/-- The word with a spelling; the case of letters does not matter. -/
def Keyword.ofText? (text : String) : Option Keyword :=
  Keyword.spellings.lookup text.toUpper

/-- A symbol of SQL. -/
inductive Token where
  | keyword (k : Keyword)
  /-- Any other word. -/
  | word (text : String)
  /-- A name between quotation marks. -/
  | name (mark : Char) (text : String)
  | text (content : String)
  /-- Digits, with at most points between them. -/
  | number (digits : String)
  /-- The parameter with a number, counted from one. -/
  | parameter (n : Nat)
  | dot
  | comma
  | semicolon
  | opening
  | closing
  | star
  | plus
  | minus
  | eq
  | ne
  | lt
  | le
  | gt
  | ge
deriving DecidableEq

/-- A token as it stands in a text. -/
structure Lexeme where
  /-- The blanks in front of it. -/
  blanks : List Char
  spelling : List Char
  token : Token
deriving DecidableEq

/-- The text from the first of some lexemes to the last one. -/
def Lexeme.span : List Lexeme → String
  | [] => ""
  | first :: rest =>
    String.ofList (first.spelling ++ rest.flatMap fun l => l.blanks ++ l.spelling)

/-- The characters between tokens. -/
def isSpace (c : Char) : Bool :=
  c = ' ' || c = '\t' || c = '\n' || c = '\x0c' || c = '\r'

/-- The characters of words: letters, digits, the underscore and everything
outside ASCII. -/
def isWordPart (c : Char) : Bool :=
  c.isAlphanum || c = '_' || 128 ≤ c.toNat

/-- The token of a word. -/
def Token.ofWord (text : String) : Token :=
  ((Keyword.ofText? text).map keyword).getD (word text)

/-- The tokens of one character. -/
def Token.ofMark? (c : Char) : Option Token :=
  [('.', dot), (',', comma), (';', semicolon), ('(', opening), (')', closing), ('*', star),
    ('+', plus), ('-', minus), ('=', eq)].lookup c

/-- Where the lexer is. -/
inductive Position where
  | between
  | word
  | number
  /-- After a dollar sign. -/
  | parameter
  /-- Between quotation marks, with the content so far in reverse. -/
  | quoted (mark : Char) (content : List Char)
  /-- After a mark that closes a name or string, unless it is doubled. -/
  | closed (mark : Char) (content : List Char)
  /-- After `<` or `>`. -/
  | angle (first : Char)

/-- The state of the lexer.  The lists are in reverse. -/
structure Lexer where
  position : Position
  blanks : List Char
  spelling : List Char
  /-- The number of parameters without a number so far. -/
  parameters : Nat
  done : List Lexeme

namespace Lexer

def initial : Lexer := ⟨.between, [], [], 0, []⟩

/-- Complete a lexeme. -/
def emit (lexer : Lexer) (token : Token) : Lexer :=
  { lexer with
    position := .between, blanks := [], spelling := []
    done := ⟨lexer.blanks.reverse, lexer.spelling.reverse, token⟩ :: lexer.done }

/-- The token of a name or string. -/
def quotedToken (mark : Char) (content : List Char) : Token :=
  if mark = '\'' then .text (String.ofList content.reverse)
  else .name mark (String.ofList content.reverse)

/-- The number behind a dollar sign; none for no digits or anything else. -/
def parameterNumber? (digits : List Char) : Option Nat :=
  if digits.isEmpty || !digits.all Char.isDigit then none
  else some (Nat.ofDigitChars 10 digits 0)

/-- Complete the lexeme that is being read, if it can end here. -/
def flush? (lexer : Lexer) : Option Lexer :=
  let spelling := String.ofList lexer.spelling.reverse
  match lexer.position with
  | .between => some lexer
  | .word => some (lexer.emit (Token.ofWord spelling))
  | .number => some (lexer.emit (.number spelling))
  | .parameter =>
    (parameterNumber? (lexer.spelling.reverse.drop 1)).map fun n => lexer.emit (.parameter n)
  | .quoted _ _ => none
  | .closed mark content => some (lexer.emit (quotedToken mark content))
  | .angle first => some (lexer.emit (if first = '<' then .lt else .gt))

/-- Take the first character of a lexeme, or a blank. -/
def start? (lexer : Lexer) (c : Char) : Option Lexer :=
  let at' (position : Position) : Option Lexer :=
    some { lexer with position := position, spelling := [c] }
  if isSpace c then some { lexer with blanks := c :: lexer.blanks }
  else if c = '"' || c = '`' || c = '\'' then at' (.quoted c [])
  else if c = '<' || c = '>' then at' (.angle c)
  else if c = '$' then at' .parameter
  else if c = '?' then
    let n := lexer.parameters + 1
    some ({ lexer with spelling := [c], parameters := n }.emit (.parameter n))
  else if c.isDigit then at' .number
  else if isWordPart c then at' .word
  else (Token.ofMark? c).map fun token => { lexer with spelling := [c] }.emit token

/-- Take one character. -/
def step? (lexer : Lexer) (c : Char) : Option Lexer :=
  let grown := { lexer with spelling := c :: lexer.spelling }
  match lexer.position with
  | .between => lexer.start? c
  | .word => if isWordPart c then some grown else do (← lexer.flush?).start? c
  | .number => if c.isDigit || c = '.' then some grown else do (← lexer.flush?).start? c
  | .parameter => if isWordPart c then some grown else do (← lexer.flush?).start? c
  | .quoted mark content =>
    some { grown with
      position := if c = mark then .closed mark content else .quoted mark (c :: content) }
  | .closed mark content =>
    if c = mark then some { grown with position := .quoted mark (c :: content) }
    else do (← lexer.flush?).start? c
  | .angle first =>
    if c = '=' then some (grown.emit (if first = '<' then .le else .ge))
    else if c = '>' && first = '<' then some (grown.emit .ne)
    else do (← lexer.flush?).start? c

end Lexer

/-- The lexemes of a text, whatever its characters; none if it cannot be cut into
tokens. -/
def Lexeme.scan? (text : String) : Option (List Lexeme) := do
  let lexer ← text.toList.foldlM Lexer.step? Lexer.initial
  return (← lexer.flush?).done.reverse

/-- The lexemes of the text of a statement, in which no character is zero. -/
def Lexeme.ofText? (text : String) : Option (List Lexeme) :=
  if text.toList.contains '\x00' then none else Lexeme.scan? text

end Polyquery.Sql
