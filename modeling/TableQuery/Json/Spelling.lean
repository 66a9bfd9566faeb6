import TableQuery.Json.Basic
import TableQuery.Text.Quoted

/-!
# Documents as identifiers and names

In a data file, an identifier or the name of a table can be any document. A text stands for
itself, and texts inside a larger document are quoted.

* `Json.quotedSpelling`: a document as part of a larger one.
* `Json.spelling`: a document by itself.
* `Json.isTruthy`: whether a document counts as given.
-/

namespace TableQuery.Json

open Text

mutual

/-- A document as part of a larger one. -/
def quotedSpelling : Json → Text
  | .scalar (.text t) => quoted t
  | .scalar value => value.spelling
  | .array [] => "[]"
  | .array (item :: items) => "[" ++ quotedSpelling item ++ itemSpellings items
  | .object [] => "\x7b\x7d"
  | .object ((name, value) :: fields) =>
    "\x7b" ++ quoted name ++ ": " ++ quotedSpelling value ++ fieldSpellings fields

/-- The further items of an array, up to its end. -/
def itemSpellings : List Json → Text
  | [] => "]"
  | item :: items => ", " ++ quotedSpelling item ++ itemSpellings items

/-- The further fields of an object, up to its end. -/
def fieldSpellings : List (Text × Json) → Text
  | [] => "\x7d"
  | (name, value) :: fields =>
    ", " ++ quoted name ++ ": " ++ quotedSpelling value ++ fieldSpellings fields

end

/-- The text of a document that is used as an identifier or a name. -/
def spelling : Json → Text
  | .scalar value => value.spelling
  | json => quotedSpelling json

/-- Whether a document counts as given where an identifier is asked for; an array or object
counts unless it is empty. -/
def isTruthy : Json → Bool
  | .scalar value => value.isTruthy
  | .array items => !items.isEmpty
  | .object fields => !fields.isEmpty

end TableQuery.Json
