import Polyquery.Json.Basic
import Polyquery.Sql.Dialect

/-!
# Statements

A statement is drafted as a list of pieces, in which names, literals and
references to parameters are still apart from the fixed words.  A draft is
written once for each way in which values may appear: with placeholders and the
values beside the text, or with the values as literals in the text.
-/

namespace Polyquery

/-- A part of a statement. -/
inductive Piece where
  /-- Words, punctuation and spaces. -/
  | text (s : String)
  /-- A name, to be quoted. -/
  | name (s : String)
  /-- A value that is always written as a literal. -/
  | value (v : Value)
  /-- The `n`-th parameter of the statement, counted from one. -/
  | bound (n : Nat)
deriving DecidableEq

/-- A statement whose spelling is not fixed yet. -/
structure Draft where
  pieces : List Piece
  /-- The values of the parameters in order. -/
  params : List Value
deriving DecidableEq

/-- The text of a statement and the values of its placeholders. -/
structure Statement where
  text : String
  values : List Value
deriving DecidableEq

/-- The spelling of a piece, with a spelling for parameters. -/
def Piece.spell (d : Dialect) (parameter : Nat → String) : Piece → String
  | .text s => s
  | .name s => d.quoteName s
  | .value v => d.literal v
  | .bound n => parameter n

namespace Draft

/-- The text of a draft, with a spelling for parameters. -/
def spell (d : Dialect) (parameter : Nat → String) (draft : Draft) : String :=
  String.join (draft.pieces.map (Piece.spell d parameter))

/-- The literal that stands for the `n`-th parameter. -/
def inlined (d : Dialect) (draft : Draft) (n : Nat) : String :=
  d.literal (draft.params.getD (n - 1) .null)

/-- The statement of a draft. -/
def statement (d : Dialect) (mode : Mode) (draft : Draft) : Statement :=
  match mode with
  | .placeholders => ⟨draft.spell d d.placeholder, draft.params⟩
  | .inline => ⟨draft.spell d (draft.inlined d), []⟩

end Draft

/-- Statements that run one after the other. -/
abbrev StatementSet := List Statement

namespace StatementSet

/-- The texts of the statements, one on each line. -/
def display (set : StatementSet) : String :=
  "\n".intercalate (set.map Statement.text)

/-- The fields of a set in an answer: the texts, and beside them the values. -/
def fields (set : StatementSet) : List (String × Json) :=
  [("statements", Json.strings (set.map Statement.text)),
    ("values", .arr (set.map fun s => .arr (s.values.map Value.toJson)))]

def toJson (set : StatementSet) : Json :=
  .obj set.fields

end StatementSet

end Polyquery
