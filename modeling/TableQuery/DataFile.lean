import TableQuery.Failure
import TableQuery.IdSupply
import TableQuery.Json.Reader
import TableQuery.Json.Spelling
import TableQuery.Json.Writer
import TableQuery.Table
import TableQuery.Text.Lines

/-!
# Data files

A data file is a JSON array of tables. Rows are flat objects in which the identifier stands
beside the fields.

* `tablesToText`: the text of a data file.
* `contentsOfText`: the tables of a data file. Rows without an identifier take one.
* `lacksIds`: whether a row of a data file is without an identifier.
-/

namespace TableQuery

open Number

/-! ### Writing -/

/-- The object of a row; a field named `id` replaces the identifier. -/
def Row.toJson (row : Row) : Json :=
  .object (row.values.fields.foldl (fun fields (name, value) =>
    Fields.insert name (Json.scalar value) fields) [("id", .scalar (.text row.id))])

/-- The object of a table. -/
def Table.toJson (table : Table) : Json :=
  .object [("id", .scalar (.text table.id)), ("name", table.name),
    ("columns", .array (table.columns.map fun column => .scalar (.text column))),
    ("data", .array (table.rows.map Row.toJson))]

/-- The text of the data file of some tables. -/
def tablesToText (tables : List Table) : Text :=
  (Json.array (tables.map Table.toJson)).write

/-! ### Reading -/

/-- A scalar document; arrays and objects do not count as values. -/
def Json.value : Json → Value
  | .scalar value => value
  | _ => .null

/-- The items of an array; other documents have none. -/
def Json.items : Json → List Json
  | .array items => items
  | _ => []

/-- The fields of an object; other documents have none. -/
def Json.fields : Json → List (Text × Json)
  | .object fields => fields
  | _ => []

/-- The texts that a document lists: the items of an array, the names of an object, or the
characters of a text. -/
def Json.texts : Json → List Text
  | .scalar (.text t) => t.map fun p => [p]
  | .scalar _ => []
  | .array items => items.map Json.spelling
  | .object fields => fields.map Prod.fst

/-- The identifier that the object of a row gives, unless it is empty, zero, false or absent. -/
def givenId? (row : Json) : Option Text :=
  ((row.get? "id").filter Json.isTruthy).map Json.spelling

/-- The fields of a row. -/
def rowValues (row : Json) : Record :=
  .ofList ((row.fields.filter fun field => field.1 != Text.ofString "id").map fun (name, json) =>
    (name, json.value))

/-- The row of an object. It takes the next identifier if it gives none. -/
def Row.ofJson (row : Json) (ids : IdSupply) : Row × IdSupply :=
  match givenId? row with
  | some id => (⟨id, rowValues row⟩, ids)
  | none => (⟨ids.peek, rowValues row⟩, ids.take)

/-- The rows of objects, one after the other. -/
def rowsOfJson : List Json → IdSupply → List Row × IdSupply
  | [], ids => ([], ids)
  | row :: rows, ids =>
    let (first, ids) := Row.ofJson row ids
    let (more, ids) := rowsOfJson rows ids
    (first :: more, ids)

/-- The rows in the object of a table. -/
def rowItems (table : Json) : List Json :=
  ((table.get? "data").map Json.items).getD []

/-- The table of an object, which has to give an identifier and a name. -/
def Table.ofJson (table : Json) (ids : IdSupply) : Except Fault Table × IdSupply :=
  match table.get? "id", table.get? "name" with
  | none, _ => (.error (.missingKey "id"), ids)
  | some _, none => (.error (.missingKey "name"), ids)
  | some id, some name =>
    let columns := ((table.get? "columns").map Json.texts).getD []
    let (rows, ids) := rowsOfJson (rowItems table) ids
    (.ok ⟨id.spelling, name, columns, rows⟩, ids)

/-- The tables of objects, one after the other, up to the first that is not one. -/
def tablesOfJson : List Json → IdSupply → Except Fault (List Table) × IdSupply
  | [], ids => (.ok [], ids)
  | table :: tables, ids =>
    match Table.ofJson table ids with
    | (.error fault, ids) => (.error fault, ids)
    | (.ok first, ids) =>
      let (more, ids) := tablesOfJson tables ids
      (more.map (first :: ·), ids)

/-- Whether a row of some tables gives no identifier. -/
def lacksIds (tables : List Json) : Bool :=
  tables.any fun table => (rowItems table).any fun row => (givenId? row).isNone

/-- The tables of a data file. -/
structure Contents where
  tables : List Table
  /-- Whether a row took an identifier on reading. -/
  tookIds : Bool

/-- Read a data file, with the identifiers that are left afterwards. -/
def contentsOfText (text : Text) (ids : IdSupply) : Except Fault Contents × IdSupply :=
  match Json.read (Text.unifyBreaks text) with
  | .error e => (.error (.unreadable e), ids)
  | .ok json =>
    let (tables, ids) := tablesOfJson json.items ids
    (tables.map fun tables => ⟨tables, lacksIds json.items⟩, ids)

end TableQuery
