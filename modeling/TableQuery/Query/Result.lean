import TableQuery.IdSupply
import TableQuery.Query.Statement
import TableQuery.Sorting
import TableQuery.Text.Blank

/-!
# Results of statements

* `SortOrder.arrange`: rows ordered by a column.
* `Result`: what a statement yields, a new table included when it changes the table.
* `Selection.shownColumns`: the columns that a `SELECT` asks for.
* `Statement.run`: what a statement yields on a table. A failure changes nothing and takes no
  identifier.
-/

namespace TableQuery

open Number Text

/-! ### Order -/

/-- What rows are ordered by: the text of a field, if it is a text, and its number. -/
structure SortKey where
  text? : Option Text
  number? : Option Extended

/-- Two texts are in the order of texts and other pairs in the order of numbers. -/
def SortKey.compare (a b : SortKey) : Ordering :=
  match a.text?, b.text? with
  | some s, some t => compareTexts s t
  | _, _ => compareNumbers a.number? b.number?

/-- The sort key of a value; there is none for an integer beyond every double. -/
def sortKey (value : Value) : Except Fault SortKey := do
  let x ← value.number
  let text? := match value with
    | .text t => some t
    | _ => none
  return ⟨text?, x.extended?⟩

/-- The order of two values. -/
def compareForOrder (a b : Value) : Except Fault Ordering := do
  let left ← sortKey a
  let right ← sortKey b
  return left.compare right

/-- Whether a row comes before another one by a column. -/
def comesBefore (column : Text) (a b : Row) : Except Fault Bool := do
  return (← compareForOrder (a.get column) (b.get column)) == .lt

/-- Rows ordered by a column. A single row is not looked at. -/
def SortOrder.arrange (order : SortOrder) (rows : List Row) : Except Fault (List Row) :=
  Sorting.sort (comesBefore order.column) order.descending rows

/-! ### Results -/

/-- What a statement yields. -/
inductive Result
  | selected (columns : List Text) (rows : List Record)
  | inserted (table : Table) (rowId : Text)
  | updated (table : Table) (count : Nat)
  | deleted (table : Table) (count : Nat)
  | renamed (table : Table) (oldName : Text)
  | columnAdded (table : Table) (column : Text)
  | columnDropped (table : Table) (column : Text)
  deriving DecidableEq

namespace Result

/-- The columns of the rows that are shown. -/
def columns : Result → List Text
  | .selected columns _ => columns
  | _ => []

/-- The rows that are shown. -/
def rows : Result → List Record
  | .selected _ rows => rows
  | _ => []

/-- The new table, if the statement changes the table. -/
def table? : Result → Option Table
  | .selected _ _ => none
  | .inserted table _ | .updated table _ | .deleted table _ | .renamed table _
  | .columnAdded table _ | .columnDropped table _ => some table

/-- How many rows the result is about; a change to the table as a whole is about none. -/
def affectedCount? : Result → Option Nat
  | .selected _ rows => some rows.length
  | .inserted _ _ => some 1
  | .updated _ count | .deleted _ count => some count
  | .renamed _ _ | .columnAdded _ _ | .columnDropped _ _ => none

/-- The heading under which a result is reported. -/
def title : Result → Text
  | .selected _ _ => "Query executed successfully"
  | .inserted _ _ => "Insert successful"
  | .updated _ _ => "Update successful"
  | .deleted _ _ => "Delete successful"
  | .renamed _ _ => "Table renamed"
  | .columnAdded _ _ => "Column added"
  | .columnDropped _ _ => "Column dropped"

/-- The description of a result. -/
def message : Result → Text
  | .selected _ rows => "Found " ++ naturalText rows.length ++ " results"
  | .inserted table _ => "Added new row to table \"" ++ table.shownName ++ "\""
  | .updated table count =>
    "Updated " ++ naturalText count ++ " row(s) in table \"" ++ table.shownName ++ "\""
  | .deleted table count =>
    "Deleted " ++ naturalText count ++ " row(s) from table \"" ++ table.shownName ++ "\""
  | .renamed table oldName => "Table \"" ++ oldName ++ "\" renamed to \"" ++ table.shownName ++ "\""
  | .columnAdded table column =>
    "Column \"" ++ column ++ "\" added to table \"" ++ table.shownName ++ "\""
  | .columnDropped table column =>
    "Column \"" ++ column ++ "\" removed from table \"" ++ table.shownName ++ "\""

end Result

/-! ### Statements -/

/-- The columns that a `SELECT` shows: all of the table if a star is among them, and otherwise
those that the table has, blanks around their names apart. -/
def Selection.shownColumns (selection : Selection) (table : Table) :
    Except QueryError (List Text) :=
  if selection.columns.contains "*" then .ok table.columns
  else
    let named : List Text := selection.columns.map fun column => trim column
    let valid := named.filter table.columns.contains
    if valid.isEmpty then .error (.noValidColumns table.columns) else .ok valid

/-- The rows that a `SELECT` keeps. It ignores a clause that is no comparison. -/
def selectRows (filter : Option Filter) (rows : List Row) : Except Fault (List Row) :=
  match filter with
  | some (.comparison c) => Filter.select (.comparison c) rows
  | _ => .ok rows

/-- Mark the rows that a change is about: all of them without a clause. -/
def markRows (filter : Option Filter) (rows : List Row) : Except Fault (List (Row × Bool)) :=
  match filter with
  | none => .ok (rows.map fun row => (row, true))
  | some filter => filter.mark rows

/-- Order rows if an order is asked for. -/
def orderRows (order : Option SortOrder) (rows : List Row) : Except Fault (List Row) :=
  match order with
  | none => .ok rows
  | some order => order.arrange rows

/-- Keep as many rows as a limit allows. -/
def limitRows (limit : Option Nat) (rows : List Row) : List Row :=
  match limit with
  | none => rows
  | some n => rows.take n

/-- Run a `SELECT`: filter, order, limit, and narrow to the columns. -/
def Selection.run (selection : Selection) (table : Table) : Except Failure Result := do
  let columns ← (selection.shownColumns table).mapError .query
  let rows ← (selectRows selection.filter table.rows).mapError .fault
  let rows ← (orderRows selection.order rows).mapError .fault
  return .selected columns (projection (limitRows selection.limit rows) columns)

/-- The columns that an `INSERT` writes. -/
def Insertion.writtenColumns (insertion : Insertion) (table : Table) :
    Except QueryError (List Text) :=
  match insertion.columns with
  | none => .ok table.columns
  | some columns =>
    match columns.find? fun column => !table.columns.contains column with
    | none => .ok columns
    | some column => .error (.columnNotFound column (some table.shownName))

/-- Run an `INSERT`. The row takes the next identifier. -/
def Insertion.run (insertion : Insertion) (table : Table) (ids : IdSupply) :
    Except Failure (Result × IdSupply) := do
  let columns ← (insertion.writtenColumns table).mapError .query
  if columns.length ≠ insertion.values.length then
    .error (.query (.countMismatch columns.length insertion.values.length))
  else
    let row : Row := ⟨ids.peek, .ofList (columns.zip insertion.values)⟩
    return (.inserted { table with rows := table.rows ++ [row] } ids.peek, ids.take)

/-- Write assignments to a row. -/
def Row.assign (row : Row) (assignments : List (Text × Value)) : Row :=
  { row with values := row.values.merge assignments }

/-- Run an `UPDATE`. -/
def Update.run (update : Update) (table : Table) : Except Failure Result := do
  let marked ← (markRows update.filter table.rows).mapError .fault
  let rows := marked.map fun (row, hit) => if hit then row.assign update.assignments else row
  return .updated { table with rows := rows } (markedWith true marked).length

/-- Run a `DELETE`. -/
def Deletion.run (deletion : Deletion) (table : Table) : Except Failure Result := do
  let marked ← (markRows deletion.filter table.rows).mapError .fault
  return .deleted { table with rows := markedWith false marked } (markedWith true marked).length

/-- Run an `ALTER TABLE`. A new column is filled with empty text. -/
def Alteration.run (alteration : Alteration) (table : Table) : Except Failure Result :=
  match alteration with
  | .rename name => .ok (.renamed { table with name := .scalar (.text name) } table.shownName)
  | .addColumn column =>
    if table.columns.contains column then .error (.query (.columnExists column))
    else
      let rows := table.rows.map fun row => row.assign [(column, .text "")]
      let columns := table.columns ++ [column]
      .ok (.columnAdded { table with columns := columns, rows := rows } column)
  | .dropColumn column =>
    if table.columns.contains column then
      let columns := table.columns.filter (· != column)
      let rows := table.rows.map fun row => { row with values := row.values.erase column }
      .ok (.columnDropped { table with columns := columns, rows := rows } column)
    else .error (.query (.columnNotFound column none))
  | .unsupported action => .error (.query (.unsupportedAlteration action))

/-- Run a statement on the table that it names. -/
def Statement.run (statement : Statement) (table : Table) (ids : IdSupply) :
    Except Failure (Result × IdSupply) :=
  if !table.isNamed statement.table then .error (.query (.tableNotFound statement.table))
  else
    match statement with
    | .select s => (s.run table).map (·, ids)
    | .insert s => s.run table ids
    | .update s => (s.run table).map (·, ids)
    | .delete s => (s.run table).map (·, ids)
    | .alter _ alteration => (alteration.run table).map (·, ids)

end TableQuery
