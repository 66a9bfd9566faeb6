import TableQuery.Text.Basic

/-!
# Logging

* `LogLevel`: the severities of log entries, in rising order.
* `LogEntry`: a level, the part of the program that speaks, and what it says.
-/

namespace TableQuery

/-- How grave a log entry is. -/
inductive LogLevel
  | debug
  | info
  | warning
  | error
  deriving DecidableEq

namespace LogLevel

/-- The rank of a level. -/
def rank : LogLevel → Nat
  | .debug => 0
  | .info => 1
  | .warning => 2
  | .error => 3

/-- The name of a level. -/
def name : LogLevel → Text
  | .debug => "DEBUG"
  | .info => "INFO"
  | .warning => "WARNING"
  | .error => "ERROR"

/-- All levels, in rising order. -/
def all : List LogLevel :=
  [.debug, .info, .warning, .error]

/-- The level with a given name. -/
def ofName? (name : Text) : Option LogLevel :=
  all.find? fun level => level.name == name

end LogLevel

/-- The parts of the program that write log entries. -/
inductive Channel
  | parser
  | executor
  | interpreter
  | notifications
  | store
  | session
  deriving DecidableEq

/-- The name of a channel. -/
def Channel.name : Channel → Text
  | .parser => "tabql.parsing.query_parser"
  | .executor => "tabql.query_executor"
  | .interpreter => "tabql.nl_interpreter"
  | .notifications => "tabql.notifications"
  | .store => "tabql.repository"
  | .session => "tabql.session"

/-- A log entry. -/
structure LogEntry where
  level : LogLevel
  channel : Channel
  message : Text
  deriving DecidableEq

/-- A log entry as a line. -/
def LogEntry.line (entry : LogEntry) : Text :=
  entry.level.name ++ " " ++ entry.channel.name ++ ": " ++ entry.message

/-- Whether an entry is at least as grave as a level. -/
def LogEntry.reaches (entry : LogEntry) (level : LogLevel) : Bool :=
  level.rank ≤ entry.level.rank

end TableQuery
