import TableQuery.Json.Spelling
import TableQuery.Record

/-!
# Tables

* `Row`: a record with an identifier of its own.
* `Table`: a name, an ordered list of columns, and rows.
* `Table.isNamed`, `Table.shownName`: the name of a table.
* `projection`: the records of rows, narrowed to some columns.
-/

namespace TableQuery

/-- A record with an identifier. -/
structure Row where
  id : Text
  values : Record
  deriving DecidableEq

/-- The value of a field; a field that the row does not have is absent. -/
def Row.get (row : Row) (column : Text) : Value :=
  (row.values.get? column).getD .null

/-- A named table. Its rows may lack columns and may have further fields. A data file can give a
table any document for its name, but a query can only name a table whose name is a text. -/
structure Table where
  id : Text
  name : Json
  columns : List Text
  rows : List Row
  deriving DecidableEq

/-- Whether a table has a text for its name. -/
def Table.isNamed (table : Table) (name : Text) : Bool :=
  table.name == .scalar (.text name)

/-- The name of a table as it is shown. -/
def Table.shownName (table : Table) : Text :=
  table.name.spelling

/-- Narrow rows to columns. A field that a row does not have is left out, not filled in. -/
def projection (rows : List Row) (columns : List Text) : List Record :=
  rows.map fun row => row.values.project columns

end TableQuery
