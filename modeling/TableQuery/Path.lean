import TableQuery.Failure
import TableQuery.Text.Lines
import TableQuery.Text.Search

/-!
# Paths

* `pathSteps`: the parts of a path that lead somewhere.
* `pathRoot`: where a path starts.
* `spellPath`: the shortest spelling of a root with steps.
* `normalizePath`: a path without superfluous slashes and dots.
* `byteLength`: the length of a path on the disk.
* `storedPath`: a path as the disk keeps it.
* `pathFault?`: why a path cannot be one of the disk.
-/

namespace TableQuery

open Text

/-- The steps of a path, without empty ones and single dots. -/
def pathSteps (path : Text) : List Text :=
  (splitOn '/' path).filter fun step => step != "" && step != "."

/-- The root of a path: none, a slash, or exactly two. -/
def pathRoot (path : Text) : Text :=
  match path with
  | .char '/' :: .char '/' :: .char '/' :: _ => "/"
  | .char '/' :: .char '/' :: _ => "//"
  | .char '/' :: _ => "/"
  | _ => ""

/-- The spelling of a root with steps; without either it is the current directory. -/
def spellPath (root : Text) (steps : List Text) : Text :=
  let spelled := root ++ joinWith "/" steps
  if spelled.isEmpty then "." else spelled

/-- A path in its shortest spelling. -/
def normalizePath (path : Text) : Text :=
  spellPath (pathRoot path) (pathSteps path)

/-! ### Paths on the disk -/

/-- A half that stands for a byte which is no part of a character. -/
def standsForByte (p : Point) : Bool :=
  0xDC80 ≤ p.value && p.value ≤ 0xDCFF

/-- How many bytes a code point takes. -/
def Point.byteLength : Point → Nat
  | .char c => c.utf8Size
  | .half _ => 1

/-- How many bytes a text takes. -/
def byteLength (t : Text) : Nat :=
  t.foldr (fun p total => p.byteLength + total) 0

/-- The character whose bytes the halves at the front stand for, if they make one. -/
def spelledChar? (t : Text) : Option Char :=
  let bytes := ((t.take 4).takeWhile standsForByte).map fun p => (p.value - 0xDC00).toUInt8
  bytes.toByteArray.utf8DecodeChar? 0

/-- A path as the disk keeps it, after passing over the halves of the last character that are
still to come. -/
def storedFrom : (pending : Nat) → Text → Text
  | _, [] => []
  | pending + 1, _ :: rest => storedFrom pending rest
  | 0, p :: rest =>
    match spelledChar? (p :: rest) with
    | some c => .char c :: storedFrom (c.utf8Size - 1) rest
    | none => p :: storedFrom 0 rest

/-- A path as the disk keeps it: with a character in place of the halves that stand for its
bytes. -/
def storedPath (path : Text) : Text :=
  storedFrom 0 path

/-- Why a path cannot be one of the disk: halves that stand for no bytes, or else a null
character. -/
def pathFault? (path : Text) : Option Fault :=
  match refusedHalves? (fun p => p.isHalf && !standsForByte p) 0 path with
  | some (halves, position) => some (.unencodable halves position)
  | none => if path.contains (.char '\x00') then some .nullInPath else none

end TableQuery
