import TableQuery.Notification
import TableQuery.Text.Search

/-!
# Output

The standard output takes only texts that it can encode; the error output takes all of them.

* `Output`: what the standard output takes.
* `Printing`: what a part of a run prints, and the fault that ends it.
* `Output.print`: printing up to the first text that is not taken.
-/

namespace TableQuery

open Text

/-- What the standard output takes: any text, or any that has an encoding. -/
inductive Output
  | anyText
  | utf8
  deriving DecidableEq

/-- What is printed, and the fault that ends it, if any. -/
structure Printing where
  chunks : List Chunk
  fault? : Option Fault
  deriving DecidableEq

namespace Printing

/-- Nothing is printed. -/
def nothing : Printing := ⟨[], none⟩

/-- A fault comes before anything is printed. -/
def failed (fault : Fault) : Printing := ⟨[], some fault⟩

/-- Print more, unless a fault has come before. -/
def andThen (first next : Printing) : Printing :=
  match first.fault? with
  | some _ => first
  | none => { next with chunks := first.chunks ++ next.chunks }

end Printing

namespace Output

/-- Why a text is not taken: no half of a surrogate pair has an encoding. -/
def fault? (output : Output) (text : Text) : Option Fault :=
  match output with
  | .anyText => none
  | .utf8 =>
    (refusedHalves? Point.isHalf 0 text).map fun (halves, position) => .unencodable halves position

/-- Why a text cannot be printed. -/
def chunkFault? (output : Output) : Chunk → Option Fault
  | .out text => output.fault? text
  | .err _ => none

/-- Print texts up to the first that is not taken. -/
def print (output : Output) : List Chunk → Printing
  | [] => .nothing
  | chunk :: chunks =>
    match output.chunkFault? chunk with
    | some f => .failed f
    | none => { output.print chunks with chunks := chunk :: (output.print chunks).chunks }

end Output

end TableQuery
