import TableQuery.Condition

/-!
# Statements

* `Selection`, `Insertion`, `Update`, `Deletion`: the statements on rows.
* `Alteration`: the changes to a table as a whole.
* `Statement`: any of them.
-/

namespace TableQuery

/-- The column and the direction by which rows are ordered. -/
structure SortOrder where
  column : Text
  descending : Bool
  deriving DecidableEq

/-- A `SELECT`; the column `*` stands for all columns. -/
structure Selection where
  table : Text
  columns : List Text
  filter : Option Filter
  order : Option SortOrder
  limit : Option Nat
  deriving DecidableEq

/-- An `INSERT`; without a column list the values go to the columns of the table. -/
structure Insertion where
  table : Text
  columns : Option (List Text)
  values : List Value
  deriving DecidableEq

/-- An `UPDATE`. -/
structure Update where
  table : Text
  assignments : List (Text × Value)
  filter : Option Filter
  deriving DecidableEq

/-- A `DELETE`. -/
structure Deletion where
  table : Text
  filter : Option Filter
  deriving DecidableEq

/-- What an `ALTER TABLE` does. -/
inductive Alteration
  | rename (name : Text)
  | addColumn (column : Text)
  | dropColumn (column : Text)
  | unsupported (action : Text)
  deriving DecidableEq

/-- A statement of the query language. -/
inductive Statement
  | select (selection : Selection)
  | insert (insertion : Insertion)
  | update (update : Update)
  | delete (deletion : Deletion)
  | alter (table : Text) (alteration : Alteration)
  deriving DecidableEq

/-- The table that a statement names. -/
def Statement.table : Statement → Text
  | .select s => s.table
  | .insert s => s.table
  | .update s => s.table
  | .delete s => s.table
  | .alter table _ => table

end TableQuery
