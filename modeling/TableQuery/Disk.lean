import TableQuery.Path
import TableQuery.Store

/-!
# Files and directories

Paths are followed step by step from the current directory, in which the program runs.

* `Disk`: files with their texts, and directories.
* `Disk.place`: what a path leads to.
* `Disk.makeDirectory`: make a directory with those above it.
* `Disk.destination`: where a file is written.
* `Disk.script`, `Disk.dataFile`: what the two kinds of files hold.
* `Disk.write`: write a file.
-/

namespace TableQuery

/-- The names that lead to a file or directory from the current directory, or from the root if
the first of them is a slash. Names of two dots lead to the directories above the current one. -/
abbrev Location := List Text

/-- Files and directories. A directory above a file is there as well. -/
structure Disk where
  files : List (Location × Text)
  directories : List Location

/-- What a path leads to. -/
inductive Place
  | file (location : Location) (text : Text)
  | directory
  /-- Nothing yet, but in a directory that is there. -/
  | vacant (location : Location)
  /-- Nothing, and not even a directory for it. -/
  | nowhere
  /-- Nothing, because a file is no directory. -/
  | beyondFile
  /-- Nothing, because a name is too long. -/
  | tooLong

/-- The root. -/
def Location.root : Location := ["/"]

/-- Whether a location is the current directory or one above it. -/
def Location.isAbove (location : Location) : Bool :=
  location.all (· == "..")

/-- The directory above another. -/
def Location.parent (location : Location) : Location :=
  if location.isAbove then ".." :: location
  else if location = .root then location
  else location.dropLast

/-- The longest name of a file, in bytes. -/
def maxNameLength : Nat := 255

/-- The longest path, in bytes. -/
def maxPathLength : Nat := 4095

namespace Disk

/-- The disk with some files in the current directory. The null device and the directory for
temporary files are always there. -/
def ofList (files : List (Text × Text)) : Disk :=
  ⟨(["/", "dev", "null"], "") :: files.map fun (path, text) => (pathSteps path, text),
    [["/", "tmp"]]⟩

/-- The files below the current directory, with their paths. -/
def toList (disk : Disk) : List (Text × Text) :=
  let below := disk.files.filter fun file =>
    !file.1.head?.any fun (step : Text) => step == "/" || step == ".."
  below.map fun (location, text) => (Text.joinWith "/" location, text)

/-- Whether a location is a directory. -/
def isDirectory (disk : Disk) (location : Location) : Bool :=
  location.isAbove || location == .root || disk.directories.contains location ||
    disk.files.any fun file => location.isPrefixOf file.1 && location != file.1

/-- Follow steps from a directory. -/
def follow (disk : Disk) (location : Location) : List Text → Place
  | [] => .directory
  | step :: rest =>
    if step = ".." then follow disk location.parent rest
    else if maxNameLength < byteLength step then .tooLong
    else
      match Fields.lookup (location ++ [step]) disk.files with
      | some text => if rest.isEmpty then .file (location ++ [step]) text else .beyondFile
      | none =>
        if disk.isDirectory (location ++ [step]) then follow disk (location ++ [step]) rest
        else if rest.isEmpty then .vacant (location ++ [step])
        else .nowhere

/-- What a path leads to. -/
def place (disk : Disk) (path : Text) : Place :=
  if maxPathLength < byteLength path then .tooLong
  else disk.follow (if (pathRoot path).isEmpty then [] else .root) (pathSteps (storedPath path))

/-- Make a directory in one that is there; one that is there already will do. -/
def makeLast (disk : Disk) (path : Text) : Except Fault Disk :=
  match disk.place path with
  | .vacant location => .ok { disk with directories := location :: disk.directories }
  | .directory => .ok disk
  | .file _ _ => .error (.fileExists path)
  | .nowhere => .error (.noSuchFile path)
  | .beyondFile => .error (.notADirectory path)
  | .tooLong => .error (.nameTooLong path)

/-- Make a directory, and first the one above it if that is missing. The steps are given last
one first. -/
def makeDirectory (root : Text) : List Text → Disk → Except Fault Disk
  | [], disk => disk.makeLast (spellPath root [])
  | step :: above, disk =>
    let path := spellPath root (step :: above).reverse
    match disk.place path with
    | .nowhere => do
      let disk ← makeDirectory root above disk
      disk.makeLast path
    | _ => disk.makeLast path

/-- Where a file is written, after the directories above it are made. -/
def destination (disk : Disk) (path : Text) : Except Fault Location := do
  let above := (pathSteps path).dropLast
  match pathFault? (spellPath (pathRoot path) above) with
  | some fault => .error fault
  | none =>
    let disk ← disk.makeDirectory (pathRoot path) above.reverse
    match pathFault? path with
    | some fault => .error fault
    | none =>
      match disk.place path with
      | .vacant location => .ok location
      | .file location _ => .ok location
      | .directory => .error (.isDirectory path)
      | .nowhere => .error (.noSuchFile path)
      | .beyondFile => .error (.notADirectory path)
      | .tooLong => .error (.nameTooLong path)

/-- What a path holds for someone who reads it. -/
def script (disk : Disk) (path : Text) : FileState :=
  if (pathFault? path).isSome then .missing
  else
    match disk.place path with
    | .file _ text => .content text
    | .directory => .unreadable (.isDirectory path)
    | .tooLong => .unreachable (.nameTooLong path)
    | .vacant _ | .nowhere | .beyondFile => .missing

/-- What a path holds for someone who writes it if it is missing. -/
def dataFile (disk : Disk) (path : Text) : FileState :=
  match disk.script path, disk.destination path with
  | .missing, .error fault => .unreadable fault
  | state, _ => state

/-- Whether a data file is kept where a script is. -/
def keepsDataIn (disk : Disk) (data script : Text) : Bool :=
  match disk.destination data, disk.place script with
  | .ok kept, .file location _ => kept == location
  | _, _ => false

/-- Write a file. -/
def write (disk : Disk) (path text : Text) : Disk :=
  match disk.destination path with
  | .ok location => { disk with files := Fields.insert location text disk.files }
  | .error _ => disk

end Disk

end TableQuery
