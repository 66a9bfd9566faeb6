import TableQuery.DataFile
import TableQuery.Notification

/-!
# Stores

A store holds a list of tables, in memory or in a data file, and the identifiers that are
not taken yet.

* `Store.load`, `Store.save`: read and write the whole list.
* `Store.find?`, `Store.findByName?`: a single table.
* `Store.replace`, `Store.add`, `Store.delete`: change a single table.

Each operation gives what it answers, the store after it, and what it logs.
-/

namespace TableQuery

open Number Text

/-- What stands under the path of a data file. -/
inductive FileState
  | missing
  | content (text : Text)
  /-- Something that cannot be read or made as a file. -/
  | unreadable (fault : Fault)
  /-- A path at which not even a look is possible. -/
  | unreachable (fault : Fault)
  deriving DecidableEq

/-- Where the tables are kept. -/
inductive Storage
  | memory (tables : List Table)
  /-- A data file; if it is missing it starts with the sample table, or empty. -/
  | file (path : Text) (seeded : Bool) (state : FileState)

/-- The tables and the identifiers that are not taken yet. -/
structure Store where
  storage : Storage
  ids : IdSupply

/-- What an operation on a store gives. -/
structure Step (α : Type) where
  answer : Except Fault α
  store : Store
  events : List Event

/-- Go on with the answer of an operation, if it has one. -/
def Step.andThen {α β : Type} (step : Step α) (next : α → Store → Step β) : Step β :=
  match step.answer with
  | .error fault => ⟨.error fault, step.store, step.events⟩
  | .ok a =>
    let later := next a step.store
    ⟨later.answer, later.store, step.events ++ later.events⟩

/-- Change the answer of an operation. -/
def Step.map {α β : Type} (f : α → β) (step : Step α) : Step β :=
  ⟨step.answer.map f, step.store, step.events⟩

/-! ### The sample table -/

/-- The columns of the sample table. -/
def sampleColumns : List Text :=
  ["Code", "Company Name", "Employee Number",
    "Net Worth (in billion dollars)", "Global Position"]

/-- The fields of the sample table. -/
def sampleData : List (List Value) :=
  [[.int 112, .text "Microsoft", .int 221000, .int 2135, .int 21],
   [.int 113, .text "Meta", .int 58604, .int 36, .int 27],
   [.int 114, .text "Amazon", .int 1468000, .float (.ofDecimal false 10535 (-1)), .int 4],
   [.int 115, .text "Google", .int 150028, .int 1420, .int 2],
   [.int 116, .text "Tesla", .int 110000, .float (.ofDecimal false 71078 (-2)), .int 103]]

/-- Rows that take identifiers one after the other. -/
def numberedRows : List Record → IdSupply → List Row × IdSupply
  | [], ids => ([], ids)
  | values :: rest, ids =>
    let (rows, left) := numberedRows rest ids.take
    (⟨ids.peek, values⟩ :: rows, left)

/-- The sample table; its rows take identifiers before the table itself. -/
def sampleTable (ids : IdSupply) : Table × IdSupply :=
  let (rows, ids) := numberedRows (sampleData.map fun row => .ofList (sampleColumns.zip row)) ids
  (⟨ids.peek, .scalar (.text "Tech Companies"), sampleColumns, rows⟩, ids.take)

/-! ### Loading and saving -/

namespace Store

/-- Log entries as events. -/
def logged (entries : List LogEntry) : List Event :=
  entries.map Event.logged

/-- The entry for a saved data file. -/
def savedEntry (path : Text) (count : Nat) : LogEntry :=
  ⟨.debug, .store, "Saved " ++ naturalText count ++ " table(s) to " ++ path⟩

/-- The entry for rows that took identifiers. -/
def assignedEntry (path : Text) : LogEntry :=
  ⟨.info, .store, "Assigned ids to rows in " ++ path⟩

/-- Write the whole list of tables. -/
def save (tables : List Table) (store : Store) : Step Unit :=
  match store.storage with
  | .memory _ => ⟨.ok (), { store with storage := .memory tables }, []⟩
  | .file _ _ (.unreadable fault) | .file _ _ (.unreachable fault) => ⟨.error fault, store, []⟩
  | .file path seeded _ =>
    ⟨.ok (), { store with storage := .file path seeded (.content (tablesToText tables)) },
      logged [savedEntry path tables.length]⟩

/-- Read the whole list of tables. A missing data file is written first. A data file whose
rows took identifiers is written again. -/
def load (store : Store) : Step (List Table) :=
  match store.storage with
  | .memory tables => ⟨.ok tables, store, []⟩
  | .file _ _ (.unreadable fault) | .file _ _ (.unreachable fault) => ⟨.error fault, store, []⟩
  | .file _ seeded .missing =>
    let (tables, ids) :=
      if seeded then ([(sampleTable store.ids).1], (sampleTable store.ids).2) else ([], store.ids)
    (save tables { store with ids := ids }).map fun _ => tables
  | .file path _ (.content text) =>
    match contentsOfText text store.ids with
    | (.error fault, ids) => ⟨.error fault, { store with ids := ids }, []⟩
    | (.ok contents, ids) =>
      let store := { store with ids := ids }
      if contents.tookIds then
        let saved := (save contents.tables store).map fun _ => contents.tables
        ⟨saved.answer, saved.store, .logged (assignedEntry path) :: saved.events⟩
      else ⟨.ok contents.tables, store, []⟩

/-! ### Single tables -/

/-- The first table with an identifier. -/
def find? (id : Text) (store : Store) : Step (Option Table) :=
  store.load.map fun tables => tables.find? fun table => table.id == id

/-- The first table with a name. -/
def findByName? (name : Json) (store : Store) : Step (Option Table) :=
  store.load.map fun tables => tables.find? fun table => table.name == name

/-- Replace the first table that has the identifier of a given one. -/
def replaceFirst (updated : Table) : List Table → List Table
  | [] => []
  | table :: tables =>
    if table.id = updated.id then updated :: tables else table :: replaceFirst updated tables

/-- Write a table in place of the first one with its identifier; if there is none, say so. -/
def replace (updated : Table) (store : Store) : Step Unit :=
  store.load.andThen fun tables store =>
    if tables.any fun table => table.id == updated.id then save (replaceFirst updated tables) store
    else
      ⟨.ok (), store, logged [⟨.warning, .store,
        "Table " ++ updated.id ++ " is no longer in the repository; not saved"⟩]⟩

/-- Write a further table, after the others. -/
def add (table : Table) (store : Store) : Step Unit :=
  store.load.andThen fun tables store => save (tables ++ [table]) store

/-- Drop the tables with an identifier. -/
def delete (id : Text) (store : Store) : Step Unit :=
  store.load.andThen fun tables store => save (tables.filter fun table => table.id != id) store

end Store

end TableQuery
