import Polyquery.Sql.Term

/-!
# Actions of SQL

What a statement asks for, as read from its text: a selection, a deletion, or
the replacement of rows.
-/

namespace Polyquery.Sql

/-- A selected expression. -/
structure Item where
  term : Term ColumnName
  /-- The expression as written. -/
  text : String
  label : Option String

/-- An expression by which rows are ordered. -/
structure SortTerm where
  term : Term ColumnName
  descending : Bool

/-- The parts of a selection. -/
structure Selection where
  /-- The selected expressions; none for all columns. -/
  items : Option (List Item)
  table : Option String
  condition : Option (Term ColumnName)
  sorts : List SortTerm
  take : Option Nat
  skip : Option Nat

/-- What a statement asks for. -/
inductive Action where
  | select (selection : Selection)
  | delete (table : String) (condition : Option (Term ColumnName))
  | replace (table : String) (columns : List String) (rows : List (List (Term ColumnName)))

/-- Reading from the front of some lexemes. -/
abbrev Reading (α : Type) := StateT (List Lexeme) Option α

namespace Reading

/-- Take a token, if it is the next one. -/
def took (token : Token) : Reading Bool := do
  match ← get with
  | l :: rest =>
    if l.token = token then
      set rest
      return true
    else return false
  | [] => return false

/-- Take a token, which has to be the next one. -/
def expect (token : Token) : Reading Unit := do
  if !(← took token) then failure

/-- Take a word, which has to be the next token. -/
def expectWord (keyword : Keyword) : Reading Unit :=
  expect (.keyword keyword)

/-- Take the next token. -/
def next : Reading Token := do
  match ← get with
  | l :: rest =>
    set rest
    return l.token
  | [] => failure

/-- Take a name. -/
def name : Reading String := do
  match ← next with
  | .name _ text => return text
  | _ => failure

/-- Take a whole number. -/
def whole : Reading Nat := do
  match ← next with
  | .number digits => StateT.lift digits.toNat?
  | _ => failure

/-- Take a term. -/
def term : Reading (Term ColumnName) := do
  let lexemes ← get
  let (t, rest) ← StateT.lift (Term.ofTokens? (lexemes.map Lexeme.token))
  set (lexemes.drop (lexemes.length - rest.length))
  return t

/-- Read something if a word announces it. -/
def announced {α : Type} (keyword : Keyword) (reading : Reading α) : Reading (Option α) := do
  if ← took (.keyword keyword) then return some (← reading)
  else return none

/-- Read one or more things with commas between them, at most as many as
given. -/
def listed {α : Type} (reading : Reading α) : Nat → Reading (List α)
  | 0 => failure
  | most + 1 => do
    let first ← reading
    if ← took .comma then return first :: (← listed reading most)
    else return [first]

/-- Read one or more things with commas between them. -/
def list {α : Type} (reading : Reading α) : Reading (List α) := do
  listed reading (← get).length

/-- Read a list in parentheses. -/
def tuple {α : Type} (reading : Reading α) : Reading (List α) := do
  expect .opening
  let items ← list reading
  expect .closing
  return items

/-- A name for a column of the result.  The words that end a sort can stand as
names. -/
def label? : Reading (Option String) := do
  if ← took (.keyword .named) then
    match ← next with
    | .name _ text | .word text => return some text
    | _ => failure
  else
    match ← get with
    | l :: rest =>
      match l.token with
      | .keyword .ascending | .keyword .descending =>
        set rest
        return some (String.ofList l.spelling)
      | _ => return none
    | [] => return none

/-- A selected expression. -/
def item : Reading Item := do
  let before ← get
  let t ← term
  let text := Lexeme.span (before.take (before.length - (← get).length))
  return ⟨t, text, ← label?⟩

/-- The selected expressions. -/
def items : Reading (Option (List Item)) := do
  if ← took .star then return none
  else return some (← list item)

/-- An expression by which rows are ordered; ascending unless said otherwise. -/
def sortTerm : Reading SortTerm := do
  let t ← term
  if ← took (.keyword .descending) then return ⟨t, true⟩
  let _ ← took (.keyword .ascending)
  return ⟨t, false⟩

/-- The order of the rows. -/
def sortTerms : Reading (List SortTerm) := do
  expectWord .by
  list sortTerm

/-- How many rows, and how many are left out in front. -/
def paging : Reading (Nat × Option Nat) := do
  let take ← whole
  return (take, ← announced .offset whole)

def selection : Reading Selection := do
  let items ← items
  let table ← announced .source name
  let condition ← if table.isSome then announced .condition term else pure none
  let sorts ← announced .order sortTerms
  let pages ← announced .limit paging
  return ⟨items, table, condition, sorts.getD [], pages.map Prod.fst, pages.bind Prod.snd⟩

def deletion : Reading Action := do
  expectWord .source
  let table ← name
  return .delete table (← announced .condition term)

def replacement : Reading Action := do
  expectWord .into
  let table ← name
  let columns ← tuple name
  expectWord .values
  return .replace table columns (← list (tuple term))

/-- A statement up to its semicolon and the end of the text. -/
def action : Reading Action := do
  let action ← match ← next with
    | .keyword .select => do pure (Action.select (← selection))
    | .keyword .delete => deletion
    | .keyword .replace => replacement
    | _ => failure
  let _ ← took .semicolon
  if (← get).isEmpty then return action else failure

end Reading

/-- The action of a statement; none if its text is no statement. -/
def Action.ofText? (text : String) : Option Action := do
  let lexemes ← Lexeme.ofText? text
  return (← StateT.run Reading.action lexemes).1

end Polyquery.Sql
