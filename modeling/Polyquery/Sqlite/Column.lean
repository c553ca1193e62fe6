import Polyquery.Sql.Term
import Polyquery.Sqlite.Cell

/-!
# Columns of SQLite

A column is declared by a type and by constraints that follow it, all of them
optional: `INTEGER PRIMARY KEY AUTOINCREMENT`, `VARCHAR(10) NOT NULL DEFAULT 'x'`.
-/

namespace Polyquery.Sqlite

open Sql (Token Lexeme)

/-- A declared column. -/
structure Column where
  name : String
  /-- The type as written, without the constraints. -/
  type : String
  /-- The column is the primary key of its table. -/
  primary : Bool
  /-- The primary key is kept in descending order. -/
  descending : Bool
  /-- Keys are never used again. -/
  monotone : Bool
  /-- Null is refused. -/
  required : Bool
  unique : Bool
  /-- What is stored when a row does not have the column. -/
  standard : Cell
deriving DecidableEq

namespace Column

def affinity (column : Column) : Affinity :=
  Affinity.ofType column.type

/-- The types whose spelling does not depend on the case in which they are
declared. -/
def standardTypes : List String :=
  ["ANY", "BLOB", "INT", "INTEGER", "REAL", "TEXT"]

/-- The spelling of a declared type. -/
def typeText (written : String) : String :=
  if standardTypes.contains written.toUpper then written.toUpper else written

/-- The bytes that pairs of hexadecimal digits stand for. -/
def bytes? : List Char → Option (List Nat)
  | [] => some []
  | high :: low :: rest => do
    return (16 * (← Json.hexValue? high) + (← Json.hexValue? low)) :: (← bytes? rest)
  | _ => none

/-- The number of tokens that a type takes. -/
def typeLength : List Token → Nat
  | .word _ :: rest => typeLength rest + 1
  | .opening :: .number _ :: .closing :: _ => 3
  | .opening :: .number _ :: .comma :: .number _ :: .closing :: _ => 5
  | _ => 0

/-- A number as a cell. -/
def numberCell? (negative : Bool) (digits : String) : Option Cell :=
  (Numeral.ofText? ((if negative then "-" else "") ++ digits)).map Cell.ofNumeral

/-- Read the constraints of a column. -/
def constrain? (column : Column) : List Token → Option Column
  | [] => some column
  | .keyword .primary :: .keyword .key :: .keyword .descending :: rest =>
    constrain? { column with primary := true, descending := true } rest
  | .keyword .primary :: .keyword .key :: .keyword .ascending :: rest
  | .keyword .primary :: .keyword .key :: rest => constrain? { column with primary := true } rest
  | .keyword .autoincrement :: rest => constrain? { column with monotone := true } rest
  | .keyword .unique :: rest => constrain? { column with unique := true } rest
  | .keyword .not :: .keyword .null :: rest => constrain? { column with required := true } rest
  | .keyword .null :: rest => constrain? column rest
  | .keyword .standard :: .keyword .null :: rest => constrain? column rest
  | .keyword .standard :: .text s :: rest => constrain? { column with standard := .text s } rest
  | .keyword .standard :: .number digits :: rest
  | .keyword .standard :: .plus :: .number digits :: rest => do
    constrain? { column with standard := ← numberCell? false digits } rest
  | .keyword .standard :: .minus :: .number digits :: rest => do
    constrain? { column with standard := ← numberCell? true digits } rest
  | .keyword .standard :: .word mark :: .text digits :: rest => do
    if mark.toLower ≠ "x" then none
    constrain? { column with standard := .blob (← bytes? digits.toList) } rest
  | _ => none

/-- The column with a name and the declaration that follows it; none if the
declaration cannot be read. -/
def ofDeclaration? (name declaration : String) : Option Column := do
  let lexemes ← Lexeme.ofText? declaration
  let tokens := lexemes.map Lexeme.token
  let count := typeLength tokens
  let type := typeText (Lexeme.span (lexemes.take count))
  constrain? ⟨name, type, false, false, false, false, false, .null⟩ (tokens.drop count)

/-- What follows the last occurrence of a word. -/
def afterLast? (word : List Char) : List Char → Option (List Char)
  | [] => none
  | c :: rest =>
    (afterLast? word rest) <|>
      (if word.isPrefixOf (c :: rest) then some ((c :: rest).drop word.length) else none)

/-- The first number in a text; zero if there is none that 31 bits hold. -/
def firstNumber (text : List Char) : Nat :=
  let n := Json.digitsValue ((text.dropWhile fun c => !c.isDigit).takeWhile Char.isDigit)
  if n < 2147483648 then n else 0

/-- The width of a cell as a type makes it expected, in units of four bytes: what
a type says about the length of texts or bytes counts, and without it they are
taken to be five units long. -/
def width (column : Column) : Nat :=
  let upper := column.type.toUpper
  let isLong := column.affinity = .text || column.affinity = .blob
  if column.type.isEmpty || !isLong then 1
  else if standardTypes.contains upper then 5
  else
    let sized := afterLast? "CHAR".toList upper.toList <|> afterLast? "BLOB(".toList upper.toList
    match sized with
    | some text => min 255 (firstNumber text / 4 + 1)
    | none => 5

/-- Whether a primary key of this column alone numbers the rows. -/
def numbersRows (column : Column) : Bool :=
  column.type.toUpper = "INTEGER" && !column.descending

end Column

end Polyquery.Sqlite
