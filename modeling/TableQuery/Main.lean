import TableQuery.Shell

/-!
# The program

Reads the files that the arguments name, holds the dialogue on the standard input, and writes
the data file back.

* `main`: run the command line and give its exit code.
-/

namespace TableQuery.Program

open TableQuery

/-- What stands under a path. -/
def readState (path : Text) : IO FileState := do
  try
    return .content (← IO.FS.readFile path.toString)
  catch
    | .inappropriateType _ _ _ => return .unreadable (.isDirectory path)
    | _ => return .missing

/-- Whether two paths lead to one file. -/
def isSameFile (path other : Text) : IO Bool := do
  try
    return (← IO.FS.realPath path.toString) == (← IO.FS.realPath other.toString)
  catch _ =>
    return false

/-- Write the data file back if its text has changed. -/
def writeState (path : Text) (before : FileState) (shell : Shell) : IO Unit := do
  match shell.store.storage with
  | .file _ _ (.content text) =>
    if before ≠ .content text then
      IO.FS.createDirAll (spellPath (pathRoot path) (pathSteps path).dropLast).toString
      IO.FS.writeFile path.toString text.toString
  | _ => return

/-- Print texts on the two outputs. -/
def printChunks (chunks : List Chunk) : IO Unit := do
  for chunk in chunks do
    match chunk with
    | .out text => (← IO.getStdout).putStr text.toString
    | .err text => (← IO.getStderr).putStr text.toString
  (← IO.getStdout).flush

/-- The exit code of a run; a fault that nothing handles is printed. -/
def finish (exit : Exit) : IO UInt32 := do
  match exit with
  | .code n => return n.toUInt32
  | .escaped f =>
    printChunks [.err (f.message ++ "\n")]
    return 1

/-- Identifiers from random bytes. -/
def randomIds (seed : ByteArray) : IdSupply :=
  let start := seed.toList.foldl (fun n byte => n * 256 + byte.toNat) 0
  .ofSequence fun n => uuidText (start + n)

/-- Hold the dialogue, and write the data file back after each line. -/
partial def converse (path : Text) (before : FileState) (shell : Shell) : IO UInt32 := do
  printChunks [.out shell.prompt]
  let line ← (← IO.getStdin).getLine
  if line.isEmpty then
    printChunks [.out "\n"]
    return 0
  let (next, after, chunks) := shell.step line
  printChunks chunks
  writeState path before after
  match next with
  | .leave => return 0
  | .escaped f => finish (.escaped f)
  | .goOn => converse path (← readState path) after

/-- Run what the arguments ask for. -/
def runJob (a : Arguments) (level : LogLevel) (path : Text) : IO UInt32 := do
  let before ← readState path
  let ids := randomIds (← IO.getRandomBytes 16)
  let shell := Shell.ofArguments a level path before ids .utf8
  match a.job with
  | .script script =>
    let run := shell.runScript a script (← readState script) (← isSameFile path script)
    printChunks run.chunks
    writeState path before run.shell
    finish run.exit
  | .command text =>
    let run := shell.runCommand a.table text
    printChunks run.chunks
    writeState path before run.shell
    finish run.exit
  | .dialogue =>
    let (found, after, chunks) := shell.start a.table
    printChunks chunks
    writeState path before after
    match found with
    | .error f => finish (.escaped f)
    | .ok () => converse path (← readState path) after

end TableQuery.Program

open TableQuery in
/-- Run the command line. -/
def main (line : List String) : IO UInt32 := do
  match Arguments.parse (line.map Text.ofString) with
  | .error halt =>
    Program.printChunks [halt.report.2]
    return halt.report.1.toUInt32
  | .ok a =>
    match a.logLevel with
    | none => Program.finish (.escaped .noLevel)
    | some level =>
      let environment ← IO.getEnv dataVariable.toString
      Program.runJob a level (dataPath a (environment.map Text.ofString))
