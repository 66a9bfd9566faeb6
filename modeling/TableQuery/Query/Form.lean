import TableQuery.Text.Digit
import TableQuery.Value.Basic

/-!
# Query forms

A form holds the fields of a query builder; the query text is assembled from them.

* `spellName`: a name between double quotes.
* `spellLiteral`: a numeral as it is, any other text between double quotes.
* `Form`: the fields.
* `Form.text?`: the query text, if the form is complete.
-/

namespace TableQuery

open Text

/-- A code point inside double quotes. -/
def escapePoint (p : Point) : Text :=
  if p = '"' || p = '\\' then ['\\', p] else [p]

/-- A text between double quotes. -/
def spellName (name : Text) : Text :=
  "\"" ++ name.flatMap escapePoint ++ "\""

/-- The spelling of a literal: numeric text stands for itself, blanks around it apart. -/
def spellLiteral (value : Text) : Text :=
  if isNumeral value then trim value else spellName value

/-- The statements that a form can describe. -/
inductive FormKind
  | select
  | update
  | delete
  | insert
  | rename
  | addColumn
  | dropColumn
  deriving DecidableEq

/-- The kind with a given name. -/
def FormKind.ofName? (name : Text) : Option FormKind :=
  if name = "SELECT" then some .select
  else if name = "UPDATE" then some .update
  else if name = "DELETE" then some .delete
  else if name = "INSERT" then some .insert
  else if name = "ALTER_RENAME" then some .rename
  else if name = "ALTER_ADD" then some .addColumn
  else if name = "ALTER_DROP" then some .dropColumn
  else none

/-- The fields of a query builder. -/
structure Form where
  kind : FormKind
  tableName : Text
  tableColumns : List Text := []
  selectedColumns : List Text := []
  whereColumn : Text := ""
  whereOperator : Text := "="
  whereValue : Text := ""
  orderByColumn : Text := ""
  orderDirection : Text := "ASC"
  limit : Text := ""
  /-- Columns with the texts of their values. -/
  setValues : List (Text × Text) := []
  newTableName : Text := ""
  newColumnName : Text := ""
  columnToDrop : Text := ""
  deriving DecidableEq

namespace Form

/-- Whether all columns are shown: none is selected, or as many as there are. -/
def selectsAll (form : Form) : Bool :=
  form.selectedColumns.isEmpty || form.selectedColumns.length == form.tableColumns.length

/-- Whether the direction reads `DESC` in capitals; the long s counts as an s. -/
def isDescending (form : Form) : Bool :=
  match form.orderDirection with
  | [.char d, .char e, .char s, .char c] =>
    ['d', 'D'].contains d && ['e', 'E'].contains e && ['s', 'S', 'ſ'].contains s &&
      ['c', 'C'].contains c
  | _ => false

/-- The first value that is set for a column, as a literal; an empty text if there is none. -/
def insertedLiteral (form : Form) (column : Text) : Text :=
  match form.setValues.find? fun entry => entry.1 == column with
  | some (_, value) => spellLiteral value
  | none => spellName ""

/-- Names between double quotes, with commas between them. -/
def nameList (names : List Text) : Text :=
  joinWith ", " (names.map spellName)

/-- The `WHERE` clause, if its three fields are filled in. -/
def whereClause (form : Form) : List Text :=
  if form.whereColumn.isEmpty || form.whereOperator.isEmpty || form.whereValue.isEmpty then []
  else ["WHERE " ++ spellName form.whereColumn ++ " " ++ form.whereOperator ++ " " ++
    spellLiteral form.whereValue]

/-- The `ORDER BY` clause, if there is a column for it. -/
def orderClause (form : Form) : List Text :=
  if form.orderByColumn.isEmpty then []
  else ["ORDER BY " ++ spellName form.orderByColumn ++ " " ++
    (if form.isDescending then "DESC" else "ASC")]

/-- The `LIMIT` clause, if the limit consists of digits. -/
def limitClause (form : Form) : List Text :=
  if isAllDigits (trim form.limit) then ["LIMIT " ++ trim form.limit] else []

/-- The assignments of an `UPDATE`. -/
def assignmentList (form : Form) : Text :=
  joinWith ", " (form.setValues.map fun (column, value) =>
    spellName column ++ " = " ++ spellLiteral value)

/-- An `ALTER TABLE` with an action on a name, if the name is filled in. -/
def alterText? (form : Form) (action name : Text) : Option Text :=
  if name.isEmpty then none
  else some ("ALTER TABLE " ++ spellName form.tableName ++ " " ++ action ++ " " ++ spellName name)

/-- The query text of a form, if the form is complete. -/
def text? (form : Form) : Option Text :=
  match form.kind with
  | .select =>
    let columns : Text := if form.selectsAll then "*" else nameList form.selectedColumns
    some (joinWith " " ((["SELECT", columns, "FROM " ++ spellName form.tableName] : List Text) ++
      form.whereClause ++ form.orderClause ++ form.limitClause))
  | .update =>
    if form.setValues.isEmpty then none
    else some (joinWith " "
      (["UPDATE " ++ spellName form.tableName ++ " SET " ++ form.assignmentList] ++
        form.whereClause))
  | .delete =>
    some (joinWith " " (["DELETE FROM " ++ spellName form.tableName] ++ form.whereClause))
  | .insert =>
    if form.selectedColumns.isEmpty then none
    else some ("INSERT INTO " ++ spellName form.tableName ++ " (" ++
      nameList form.selectedColumns ++ ") VALUES (" ++
      joinWith ", " (form.selectedColumns.map form.insertedLiteral) ++ ")")
  | .rename => form.alterText? "RENAME TO" form.newTableName
  | .addColumn => form.alterText? "ADD COLUMN" form.newColumnName
  | .dropColumn => form.alterText? "DROP COLUMN" form.columnToDrop

end Form

end TableQuery
