import TableQuery.Json.Basic
import TableQuery.Text.Quoted

/-!
# Failures

* `QueryError`: the ways in which a query can be wrong, with a title and a message each.
* `Fault`: failures that are not the query's: a number that is too large, data that cannot be
  read, a name that is not known, a text that cannot be printed.
* `Failure`: either.
* `bind_eq_ok`, `map_eq_ok`, `mapError_eq_ok`: when a computation that can fail succeeds.
* `bind_eq_error`, `map_eq_error`, `mapError_eq_error`: when it fails.
-/

namespace TableQuery

open Number (naturalText)

/-- The two languages in which a query can be put. -/
inductive Mode
  | sql
  | naturalLanguage
  deriving DecidableEq

/-- Why a query fails. -/
inductive QueryError
  /-- The first token that cannot continue the statement with its position, or the end. -/
  | malformed (offending : Option (Text × Nat))
  | misplacedSelect
  | unsupportedStatement
  | tableNotFound (name : Text)
  | noValidColumns (available : List Text)
  | columnExists (column : Text)
  | columnNotFound (column : Text) (table : Option Text)
  | countMismatch (columns values : Nat)
  | unsupportedAlteration (action : Text)
  | emptyQuery (mode : Mode)
  | unknownTable (id : Text)
  /-- A fault during the query, in its own words. -/
  | unexpected (message : Text)
  deriving DecidableEq

namespace QueryError

/-- The heading under which an error is reported. -/
def title : QueryError → Text
  | .malformed _ | .misplacedSelect | .unsupportedStatement | .noValidColumns _
  | .unexpected _ => "Query error"
  | .unsupportedAlteration _ => "Unsupported ALTER operation"
  | .tableNotFound _ | .columnExists _ | .columnNotFound _ _ | .countMismatch _ _
  | .emptyQuery _ | .unknownTable _ => "Error"

/-- The description of an error. -/
def message : QueryError → Text
  | .malformed none => "Syntax error at end of input"
  | .malformed (some (token, position)) =>
    "Syntax error at '" ++ token ++ "' (position " ++ naturalText position ++ ")"
  | .misplacedSelect => "Queries must start with SELECT, INSERT, UPDATE, DELETE or ALTER"
  | .unsupportedStatement =>
    "Unsupported query type. Supported types: SELECT, UPDATE, DELETE, INSERT, ALTER"
  | .tableNotFound name => "Table \"" ++ name ++ "\" not found"
  | .noValidColumns available =>
    "No valid columns found in query. Available columns: " ++
      Text.joinWith ", " available
  | .columnExists column => "Column \"" ++ column ++ "\" already exists"
  | .columnNotFound column none => "Column \"" ++ column ++ "\" does not exist"
  | .columnNotFound column (some table) =>
    "Column \"" ++ column ++ "\" does not exist in table \"" ++ table ++ "\""
  | .countMismatch columns values =>
    "The number of columns (" ++ naturalText columns ++
      ") doesn't match the number of values (" ++ naturalText values ++ ")"
  | .unsupportedAlteration _ => "Only RENAME TO, ADD COLUMN and DROP COLUMN are supported"
  | .emptyQuery .sql => "Please enter a SQL query"
  | .emptyQuery .naturalLanguage => "Please enter a natural language query"
  | .unknownTable id =>
    "Please select a table first (no table with id " ++ Text.quoted id ++ ")"
  | .unexpected message => message

end QueryError

/-- A failure that is not the query's. -/
inductive Fault
  /-- An integer beyond every double had to become a double. -/
  | integerTooLarge
  /-- An integer of too many digits had to be written. -/
  | integerOverlong
  | unknownOperator (symbol : Text)
  | missingKey (key : Text)
  /-- A word that is not one of the choices of its kind. -/
  | notAChoice (word kind : Text)
  | unreadable (error : Json.ReadError)
  | isDirectory (path : Text)
  | notADirectory (path : Text)
  | noSuchFile (path : Text)
  | fileExists (path : Text)
  | nameTooLong (path : Text)
  /-- A path with a null character. -/
  | nullInPath
  /-- A path or a printed text with halves of surrogate pairs, from a position on. -/
  | unencodable (halves : Text) (position : Nat)
  /-- A log without a level. -/
  | noLevel
  deriving DecidableEq

/-- The description of a fault. -/
def Fault.message : Fault → Text
  | .integerTooLarge => "int too large to convert to float"
  | .integerOverlong =>
    "Exceeds the limit (" ++ naturalText Number.maxIntegerDigits ++
      " digits) for integer string conversion; use sys.set_int_max_str_digits()" ++
      " to increase the limit"
  | .unknownOperator symbol => "Unknown comparison operator: " ++ symbol
  | .missingKey key => Text.quoted key
  | .notAChoice word kind => Text.quoted word ++ " is not a valid " ++ kind
  | .unreadable error => error.message
  | .isDirectory path => "[Errno 21] Is a directory: " ++ Text.quoted path
  | .notADirectory path => "[Errno 20] Not a directory: " ++ Text.quoted path
  | .noSuchFile path => "[Errno 2] No such file or directory: " ++ Text.quoted path
  | .fileExists path => "[Errno 17] File exists: " ++ Text.quoted path
  | .nameTooLong path => "[Errno 36] File name too long: " ++ Text.quoted path
  | .nullInPath => "embedded null byte"
  | .unencodable [p] position =>
    "'utf-8' codec can't encode character '\\u" ++ Text.hex 4 p.value ++ "' in position " ++
      naturalText position ++ ": surrogates not allowed"
  | .unencodable halves position =>
    "'utf-8' codec can't encode characters in position " ++ naturalText position ++ "-" ++
      naturalText (position + halves.length - 1) ++ ": surrogates not allowed"
  | .noLevel => "Level not an integer or a valid string: []"

/-- Why an operation fails. -/
inductive Failure
  | query (error : QueryError)
  | fault (fault : Fault)
  deriving DecidableEq

/-- The description of a failure. -/
def Failure.message : Failure → Text
  | .query e => e.message
  | .fault f => f.message

/-! ### Computations that can fail -/

section Except

variable {ε δ α β : Type} {x : Except ε α} {b : β}

@[simp] theorem ok_bind (a : α) (f : α → Except ε β) : (Except.ok a >>= f) = f a := rfl

@[simp] theorem pure_eq (a : α) : (pure a : Except ε α) = .ok a := rfl

theorem bind_eq_ok {f : α → Except ε β} :
    x >>= f = .ok b ↔ ∃ a, x = .ok a ∧ f a = .ok b := by
  cases x with
  | error e => simp [bind, Except.bind]
  | ok a => simp [bind, Except.bind]

theorem map_eq_ok {f : α → β} : x.map f = .ok b ↔ ∃ a, x = .ok a ∧ f a = b := by
  cases x <;> simp [Except.map]

theorem mapError_eq_ok {f : ε → δ} {a : α} : x.mapError f = .ok a ↔ x = .ok a := by
  cases x with
  | error e =>
    show Except.error (f e) = Except.ok a ↔ _
    simp
  | ok a' =>
    show Except.ok a' = Except.ok a ↔ _
    simp

theorem bind_eq_error {f : α → Except ε β} {e : ε} :
    x >>= f = .error e ↔ x = .error e ∨ ∃ a, x = .ok a ∧ f a = .error e := by
  cases x with
  | error e => simp [bind, Except.bind]
  | ok a => simp [bind, Except.bind]

theorem map_eq_error {f : α → β} {e : ε} : x.map f = .error e ↔ x = .error e := by
  cases x <;> simp [Except.map]

theorem mapError_eq_error {f : ε → δ} {d : δ} :
    x.mapError f = .error d ↔ ∃ e, x = .error e ∧ f e = d := by
  cases x with
  | error e =>
    show Except.error (f e) = Except.error d ↔ _
    simp
  | ok a =>
    show Except.ok a = Except.error d ↔ _
    simp

end Except

end TableQuery
