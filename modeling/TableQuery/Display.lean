import TableQuery.Limit
import TableQuery.Table
import TableQuery.Value.Comparison

/-!
# Showing rows

* `truncate`: a text cut to a width, with dots in place of what is cut.
* `displayValue`: a value as it is shown.
* `columnWidth`: the width of a column, from its name and its values.
* `Layout`: columns with their widths.
* `headerLine`, `ruleLine`, `rowLine`: the lines of a display.
* `displayRows`: a header, a rule, a line for each row, and their number.
-/

namespace TableQuery

open Number

/-- Cut a text that is longer than a width, with three dots at the end. A width below three
leaves out as many code points at the end as are missing to three. -/
def truncate (width : Int) (t : Text) : Text :=
  if width < t.length then takeLimit (width - 3) t ++ "..." else t

/-- A value as it is shown in at most some width; an absent one is not shown at all. -/
def displayValue (value : Value) (width : Int) : Except Fault Text :=
  if value = .null then .ok "" else value.format.map (truncate width)

/-- The greatest width of a column. -/
def maxColumnWidth : Nat := 40

/-- The text of a field before it is fitted into its column. -/
def fieldText (row : Record) (column : Text) : Except Fault Text :=
  displayValue ((row.get? column).getD .null) maxColumnWidth

/-- The width of a column: that of its name or of its widest value, up to the greatest. -/
def columnWidth (rows : List Record) (column : Text) : Except Fault Nat := do
  let texts ← rows.mapM fun row => fieldText row column
  return min maxColumnWidth
    (texts.foldl (fun width text => max width text.length) column.length)

/-- Fill a text with blanks up to a width. -/
def padRight (width : Nat) (t : Text) : Text :=
  t ++ List.replicate (width - t.length) (.char ' ')

/-- Columns from left to right, each with its width. -/
abbrev Layout := List (Text × Nat)

/-- The layout in which rows are shown. -/
def Layout.ofRows (columns : List Text) (rows : List Record) : Except Fault Layout :=
  columns.mapM fun column => do return (column, ← columnWidth rows column)

/-- The name of a column, cut or filled to its width. -/
def headerCell (column : Text) (width : Nat) : Text :=
  (padRight width column).take width

/-- A field, cut or filled to the width of its column. -/
def rowCell (row : Record) (column : Text) (width : Nat) : Except Fault Text :=
  (fieldText row column).map fun text => padRight width (truncate width text)

/-- The header line. -/
def headerLine (layout : Layout) : Text :=
  Text.joinWith " | " (layout.map fun (column, width) => headerCell column width)

/-- The line of a row. -/
def rowLine (layout : Layout) (row : Record) : Except Fault Text := do
  return Text.joinWith " | " (← layout.mapM fun (column, width) => rowCell row column width)

/-- The line under the header. -/
def ruleLine (layout : Layout) : Text :=
  List.replicate (headerLine layout).length (.char '-')

/-- How many rows there are, in words. -/
def rowCountText (count : Nat) : Text :=
  "(" ++ naturalText count ++ (if count = 1 then " row" else " rows") ++ ")"

/-- Lines, each with a line feed after it. -/
def joinLines (lines : List Text) : Text :=
  lines.flatMap fun line => line ++ "\n"

/-- The texts by which rows are shown, each printed as a line; without columns there is nothing to
show. The number of rows has an empty line before it. -/
def displayRows (columns : List Text) (rows : List Record) : Except Fault (List Text) :=
  if columns.isEmpty then .ok []
  else if rows.isEmpty then .ok ["(no results)"]
  else do
    let layout ← Layout.ofRows columns rows
    let lines ← rows.mapM (rowLine layout)
    return headerLine layout :: ruleLine layout :: (lines ++ ["\n" ++ rowCountText rows.length])

end TableQuery
