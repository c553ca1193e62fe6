import Polyquery.Json.Printer
import Polyquery.Text.Blank

/-!
# Rows as a table of text

Rows are shown as lines of cells under a header and a rule.  Every column is as
wide as its longest text, two spaces stand between columns, and the white space
at the end of a line is left out.
-/

namespace Polyquery.Output

/-- The text of a cell.  A missing field looks like a null. -/
def cell : Option Json → String
  | none | some .null => "NULL"
  | some (.str s) => s
  | some value => value.compact

/-- The names that are not seen yet, in order. -/
def addNames (seen : List String) (names : List String) : List String :=
  names.foldl (fun seen name => if seen.contains name then seen else seen ++ [name]) seen

/-- The columns of rows in the order in which they first appear. -/
def columnsOf (rows : List Row) : List String :=
  rows.foldl (fun seen row => addNames seen (Fields.names row)) []

/-- A text filled with spaces up to a width.  Widths are computed from the rows and are
taken to be without a limit. -/
def padded (width : Nat) (text : String) : List Char :=
  text.toList ++ List.replicate (width - text.length) ' '

/-- The cells of a line, each as wide as its column. -/
def cells : List Nat → List String → List (List Char)
  | width :: widths, text :: texts => padded width text :: cells widths texts
  | _, _ => []

/-- A line of cells. -/
def line (widths : List Nat) (texts : List String) : String :=
  String.ofList (Text.trimEnd ([' ', ' '].intercalate (cells widths texts)))

/-- The texts of a row in the order of the columns. -/
def rowTexts (columns : List String) (row : Row) : List String :=
  columns.map fun column => cell (Fields.find? column row)

/-- The width of a column: its longest text, the name included. -/
def widthOf (rows : List Row) (column : String) : Nat :=
  rows.foldl (fun width row => max width (cell (Fields.find? column row)).length) column.length

/-- Rows as a table; no text for rows without any field. -/
def rowTable (rows : List Row) : String :=
  match columnsOf rows with
  | [] => ""
  | columns =>
    let widths := columns.map (widthOf rows)
    let rule := widths.map fun width => String.ofList (List.replicate width '-')
    "\n".intercalate
      (line widths columns :: line widths rule ::
        rows.map fun row => line widths (rowTexts columns row))

end Polyquery.Output
