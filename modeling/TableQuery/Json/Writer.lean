import TableQuery.Json.Basic
import TableQuery.Text.Hex

/-!
# Writing JSON

Documents are written in ASCII, one item or field a line, each level two blanks further in.

* `Json.writeString`: a text with its quotes and escapes.
* `Json.write`: a document.
-/

namespace TableQuery.Json

open Number Text

/-- A numeric escape of one code unit. -/
def unicodeEscape (unit : Nat) : Text :=
  "\\u" ++ hex 4 unit

/-- One code point of a string. Beyond the basic plane it takes two escapes. -/
def writePoint (p : Point) : Text :=
  if p = '"' || p = '\\' then ['\\', p]
  else if p = '\n' then "\\n"
  else if p = '\r' then "\\r"
  else if p = '\t' then "\\t"
  else if p = '\x08' then "\\b"
  else if p = '\x0c' then "\\f"
  else if 0x20 ≤ p.value ∧ p.value ≤ 0x7E then [p]
  else if p.value < 0x10000 then unicodeEscape p.value
  else
    unicodeEscape (0xD800 + (p.value - 0x10000) / 0x400) ++
      unicodeEscape (0xDC00 + (p.value - 0x10000) % 0x400)

/-- A string between its quotes. -/
def writeString (t : Text) : Text :=
  "\"" ++ t.flatMap writePoint ++ "\""

/-- A double; the values without digits are written as words. -/
def writeDouble : Double → Text
  | .nan => "NaN"
  | .infinite negative => if negative then "-Infinity" else "Infinity"
  | x => x.text

/-- A scalar. -/
def writeScalar : Value → Text
  | .null => "null"
  | .bool b => if b then "true" else "false"
  | .int n => integerText n
  | .float x => writeDouble x
  | .text t => writeString t

/-- A new line at some depth. -/
def newLine (depth : Nat) : Text :=
  '\n' :: List.replicate (2 * depth) (.char ' ')

mutual

/-- A document that starts at some depth. -/
def writeAt (depth : Nat) : Json → Text
  | .scalar value => writeScalar value
  | .array [] => "[]"
  | .array (item :: items) =>
    "[" ++ newLine (depth + 1) ++ writeAt (depth + 1) item ++ writeItems (depth + 1) items ++
      newLine depth ++ "]"
  | .object [] => "\x7b\x7d"
  | .object ((name, value) :: fields) =>
    "\x7b" ++ newLine (depth + 1) ++ writeString name ++ ": " ++ writeAt (depth + 1) value ++
      writeFields (depth + 1) fields ++ newLine depth ++ "\x7d"

/-- The further items of an array, each after a comma. -/
def writeItems (depth : Nat) : List Json → Text
  | [] => []
  | item :: items => "," ++ newLine depth ++ writeAt depth item ++ writeItems depth items

/-- The further fields of an object, each after a comma. -/
def writeFields (depth : Nat) : List (Text × Json) → Text
  | [] => []
  | (name, value) :: fields =>
    "," ++ newLine depth ++ writeString name ++ ": " ++ writeAt depth value ++
      writeFields depth fields

end

/-- The text of a document. -/
def write (json : Json) : Text :=
  writeAt 0 json

end TableQuery.Json
