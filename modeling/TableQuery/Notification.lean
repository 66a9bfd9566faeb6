import TableQuery.Failure
import TableQuery.Log

/-!
# Notifications

Every query ends with one notification. It can be printed, logged or collected.

* `Notification`: a title, a description and a severity.
* `Notification.printed`: what is printed, and on which of the two outputs.
* `Notification.entry`: the log entry of a notification.
* `Event`: a log entry or a notification, in the order in which they arise.
-/

namespace TableQuery

/-- Whether a notification reports a success or a failure. -/
inductive Severity
  | info
  | error
  deriving DecidableEq

/-- The name of a severity. -/
def Severity.name : Severity → Text
  | .info => "info"
  | .error => "error"

/-- The severity with a given name. -/
def Severity.ofName (name : Text) : Except Fault Severity :=
  if name = "info" then .ok .info
  else if name = "error" then .ok .error
  else .error (.notAChoice name "Severity")

/-- A report of how a query ended. -/
structure Notification where
  title : Text
  description : Text
  severity : Severity
  deriving DecidableEq

/-- A text on one of the two outputs. -/
inductive Chunk
  | out (text : Text)
  | err (text : Text)
  deriving DecidableEq

/-- The part of some chunks that goes to the standard output. -/
def outText (chunks : List Chunk) : Text :=
  chunks.flatMap fun
    | .out text => text
    | .err _ => []

/-- The part of some chunks that goes to the error output. -/
def errText (chunks : List Chunk) : Text :=
  chunks.flatMap fun
    | .out _ => []
    | .err text => text

namespace Notification

/-- What is printed: a description, and for a failure the title before it. -/
def printed (n : Notification) : Chunk :=
  match n.severity with
  | .info => .out (n.description ++ "\n")
  | .error => .err (n.title ++ ": " ++ n.description ++ "\n")

/-- The log entry of a notification. -/
def entry (n : Notification) : LogEntry :=
  let level := match n.severity with
    | .info => .info
    | .error => .warning
  ⟨level, .notifications, n.title ++ ": " ++ n.description⟩

end Notification

/-- What can be observed of a run, in order. -/
inductive Event
  | logged (entry : LogEntry)
  | notified (notification : Notification)
  deriving DecidableEq

namespace Event

/-- The log entry of an event, if it is one. -/
def entry? : Event → Option LogEntry
  | .logged entry => some entry
  | .notified _ => none

/-- The notification of an event, if it is one. -/
def notification? : Event → Option Notification
  | .logged _ => none
  | .notified n => some n

/-- The log entry of an event when notifications are logged. -/
def asEntry : Event → LogEntry
  | .logged entry => entry
  | .notified n => n.entry

end Event

/-- The notifications among events. -/
def notificationsOf (events : List Event) : List Notification :=
  events.filterMap Event.notification?

/-- The log lines of entries that reach a level. -/
def logLines (level : LogLevel) (entries : List LogEntry) : List Text :=
  (entries.filter (·.reaches level)).map LogEntry.line

/-- What a run prints when notifications are printed and log entries go to the error output. -/
def printEvents (level : LogLevel) (events : List Event) : List Chunk :=
  events.filterMap fun
    | .logged entry => if entry.reaches level then some (.err (entry.line ++ "\n")) else none
    | .notified n => some n.printed

end TableQuery
