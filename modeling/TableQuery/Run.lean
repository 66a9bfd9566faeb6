import TableQuery.Display
import TableQuery.Phrase.Answer
import TableQuery.Phrase.Trace
import TableQuery.Query.Remark
import TableQuery.Store

/-!
# Running queries

A query runs against a table of a store, and its end is reported with one notification.

* `Outcome`: what a caller gets back.
* `Reply`: an outcome, or a failure that is raised to the caller.
* `Run`: a reply, the store after the query, and what can be observed.
* `Store.runStatement`: run a statement of the query language.
* `Store.runPhrase`: run a natural-language phrase.
* `Store.run`: run either.
-/

namespace TableQuery

open Number Text

/-- The mode with a given name. -/
def Mode.ofName (name : Text) : Except Fault Mode :=
  if name = "sql" then .ok .sql
  else if name = "nl" then .ok .naturalLanguage
  else .error (.notAChoice name "QueryMode")

/-- The name of a mode. -/
def Mode.name : Mode → Text
  | .sql => "sql"
  | .naturalLanguage => "nl"

/-! ### Outcomes -/

/-- What a caller gets back from a query. -/
structure Outcome where
  columns : List Text
  rows : List Record
  message : Text
  error : Option QueryError
  affectedCount : Option Nat
  /-- The new table, if the query changed one. -/
  table : Option Table
  deriving DecidableEq

namespace Outcome

/-- Whether the query succeeded. -/
def success (outcome : Outcome) : Bool :=
  outcome.error.isNone

/-- The outcome of a query that fails. -/
def ofError (error : QueryError) : Outcome :=
  ⟨[], [], error.message, some error, none, none⟩

/-- The outcome of a statement. -/
def ofResult (result : Result) : Outcome :=
  ⟨result.columns, result.rows, result.message, none, result.affectedCount?, result.table?⟩

/-- The outcome of a phrase. -/
def ofAnswer (answer : Answer) : Outcome :=
  ⟨answer.columns, answer.rows, answer.message, none, some answer.rows.length, none⟩

/-- The texts by which an outcome is shown: none if the query failed. -/
def display (outcome : Outcome) : Except Fault (List Text) :=
  if outcome.success then displayRows outcome.columns outcome.rows else .ok []

end Outcome

/-- How a query comes back. -/
inductive Reply
  | outcome (outcome : Outcome)
  | raised (failure : Failure)
  deriving DecidableEq

/-- Whether a query succeeded. -/
def Reply.success : Reply → Bool
  | .outcome o => o.success
  | .raised _ => false

/-- A reply with the store after the query and everything that can be observed, in order. -/
structure Run where
  reply : Reply
  store : Store
  events : List Event

/-! ### Reports -/

/-- An entry of a query in the log. -/
def sessionEntry (level : LogLevel) (message : Text) : Event :=
  .logged ⟨level, .session, message⟩

/-- The report of a success. -/
def successReport (title message : Text) : List Event :=
  [.notified ⟨title, message, .info⟩]

/-- The report of an error: a warning and a notification. -/
def errorReport (error : QueryError) : List Event :=
  [sessionEntry .warning (error.title ++ ": " ++ error.message),
    .notified ⟨error.title, error.message, .error⟩]

/-- The error under which a failure is reported. -/
def Failure.toError : Failure → QueryError
  | .query error => error
  | .fault f => .unexpected f.message

/-- The report of a failure. A fault goes to the log with the text of the query first. -/
def failureReport (mode : Mode) (text : Text) (failure : Failure) : List Event :=
  let kind := match mode with
    | .sql => "Query "
    | .naturalLanguage => "Natural language query "
  let onFault := match failure with
    | .query _ => []
    | .fault _ => [sessionEntry .error (kind ++ quoted text ++ " failed")]
  onFault ++ errorReport failure.toError

/-- How a failed query comes back. An unsupported statement is raised to the caller. -/
def failureReply : Failure → Reply
  | .query .unsupportedStatement => .raised (.query .unsupportedStatement)
  | failure => .outcome (.ofError failure.toError)

/-- The run of a query that fails after some events. -/
def Run.failed (mode : Mode) (text : Text) (store : Store) (events : List Event)
    (failure : Failure) : Run :=
  ⟨failureReply failure, store, events ++ failureReport mode text failure⟩

/-- A text without anything but blanks. -/
def isBlankText (text : Text) : Bool :=
  (trim text).isEmpty

/-! ### Statements -/

/-- What a statement yields on a table, with the remarks on the way. -/
def evaluate (text : Text) (table : Table) (ids : IdSupply) :
    Except Failure (Result × IdSupply) × List Remark :=
  match Statement.parse text with
  | .error error => (.error (.query error), remarksOn text)
  | .ok statement =>
    (statement.run table ids, remarksOn text ++ executionRemarks statement table)

/-- Put a table in place of every table with its identifier. -/
def replaceAll (updated : Table) (tables : List Table) : List Table :=
  tables.map fun table => if table.id = updated.id then updated else table

namespace Store

/-- Load the tables and choose the first with an identifier. -/
def choose (id : Text) (store : Store) :
    Except Failure (List Table × Table) × Store × List Event :=
  let step := store.load
  let answer := match step.answer with
    | .error f => .error (.fault f)
    | .ok tables =>
      match tables.find? fun table => table.id == id with
      | none => .error (.query (.unknownTable id))
      | some table => .ok (tables, table)
  (answer, step.store, step.events)

/-- Save a changed table among the others, and say so. -/
def putBack (tables : List Table) (updated : Table) (store : Store) : Step Unit :=
  (store.save (replaceAll updated tables)).andThen fun _ store =>
    ⟨.ok (), store, [sessionEntry .info ("Saved table " ++
      updated.name.quotedSpelling ++ " (" ++ naturalText updated.rows.length ++
      " rows)")]⟩

/-- Save the table that a statement changed, if it changed one. -/
def putResult (tables : List Table) (result : Result) (store : Store) : Step Unit :=
  match result.table? with
  | none => ⟨.ok (), store, []⟩
  | some table => store.putBack tables table

/-- Run a statement against the table with an identifier. -/
def runStatement (id : Text) (text : Text) (store : Store) : Run :=
  if isBlankText text then .failed .sql text store [] (.query (.emptyQuery .sql))
  else
    match store.choose id with
    | (.error failure, store, events) => .failed .sql text store events failure
    | (.ok (tables, table), store, loading) =>
      let (evaluated, remarks) := evaluate text table store.ids
      let events := loading ++ remarks.map fun remark => .logged remark.entry
      match evaluated with
      | .error failure => .failed .sql text store events failure
      | .ok (result, ids) =>
        let saved := putResult tables result { store with ids := ids }
        match saved.answer with
        | .error f => ⟨.raised (.fault f), saved.store, events ++ saved.events⟩
        | .ok _ =>
          ⟨.outcome (.ofResult result), saved.store,
            events ++ saved.events ++ successReport result.title result.message⟩

/-! ### Phrases -/

/-- Run a phrase against the table with an identifier. -/
def runPhrase (defaultLimit : Int) (id : Text) (text : Text) (store : Store) : Run :=
  if isBlankText text then
    .failed .naturalLanguage text store [] (.query (.emptyQuery .naturalLanguage))
  else
    match store.choose id with
    | (.error failure, store, events) => .failed .naturalLanguage text store events failure
    | (.ok (_, table), store, loading) =>
      let plan := Plan.ofPhrase defaultLimit text table
      let events := loading ++ plan.entries.map Event.logged
      match plan.answer table with
      | .error f => .failed .naturalLanguage text store events (.fault f)
      | .ok answer =>
        ⟨.outcome (.ofAnswer answer), store,
          events ++ successReport Answer.title answer.message⟩

/-- Run a query in one of the two modes. -/
def run (defaultLimit : Int) (mode : Mode) (id : Text) (text : Text) (store : Store) : Run :=
  match mode with
  | .sql => store.runStatement id text
  | .naturalLanguage => store.runPhrase defaultLimit id text

end Store

end TableQuery
