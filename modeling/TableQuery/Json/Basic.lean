import TableQuery.Fields
import TableQuery.Value.Basic

/-!
# JSON trees

* `Json`: a scalar, an array, or an object with ordered distinct names.
* `Json.Complaint`: what can be wrong with a text that should be JSON.
* `Json.ReadError`: a complaint with its place, an integer that is too long, or a nesting that
  is too deep.
-/

namespace TableQuery

/-- A JSON document. -/
inductive Json
  | scalar (value : Value)
  | array (items : List Json)
  | object (fields : List (Text × Json))

namespace Json

/-! ### Equality -/

mutual

/-- Whether two documents are the same. -/
def decEq : (a b : Json) → Decidable (a = b)
  | .scalar a, .scalar b => decidable_of_iff (a = b) (by simp)
  | .array a, .array b =>
    have := decEqItems a b
    decidable_of_iff (a = b) (by simp)
  | .object a, .object b =>
    have := decEqFields a b
    decidable_of_iff (a = b) (by simp)
  | .scalar _, .array _ | .scalar _, .object _ | .array _, .scalar _ | .array _, .object _
  | .object _, .scalar _ | .object _, .array _ => isFalse (by simp)

/-- Whether two lists of items are the same. -/
def decEqItems : (a b : List Json) → Decidable (a = b)
  | [], [] => isTrue rfl
  | [], _ :: _ => isFalse (by simp)
  | _ :: _, [] => isFalse (by simp)
  | a :: as, b :: bs =>
    have := decEq a b
    have := decEqItems as bs
    decidable_of_iff (a = b ∧ as = bs) (by simp)

/-- Whether two lists of fields are the same. -/
def decEqFields : (a b : List (Text × Json)) → Decidable (a = b)
  | [], [] => isTrue rfl
  | [], _ :: _ => isFalse (by simp)
  | _ :: _, [] => isFalse (by simp)
  | (name, a) :: as, (other, b) :: bs =>
    have := decEq a b
    have := decEqFields as bs
    decidable_of_iff ((name = other ∧ a = b) ∧ as = bs) (by simp)

end

instance : DecidableEq Json :=
  decEq

/-! ### Access -/

/-- The value under a name of an object; other documents have none. -/
def get? (name : Text) : Json → Option Json
  | .object fields => Fields.lookup name fields
  | _ => none

/-! ### Failures of reading -/

/-- What is wrong at a place of a text. -/
inductive Complaint
  | byteOrderMark
  | noValue
  | noName
  | noColon
  | noComma
  | unterminatedString
  | controlCharacter
  | escape
  | unicodeEscape
  | extraData
  deriving DecidableEq

/-- The wording of a complaint. -/
def Complaint.message : Complaint → Text
  | .byteOrderMark => "Unexpected UTF-8 BOM (decode using utf-8-sig)"
  | .noValue => "Expecting value"
  | .noName => "Expecting property name enclosed in double quotes"
  | .noColon => "Expecting ':' delimiter"
  | .noComma => "Expecting ',' delimiter"
  | .unterminatedString => "Unterminated string starting at"
  | .controlCharacter => "Invalid control character at"
  | .escape => "Invalid \\escape"
  | .unicodeEscape => "Invalid \\uXXXX escape"
  | .extraData => "Extra data"

/-- The two kinds of documents that hold others. -/
inductive Bracket
  | array
  | object
  deriving DecidableEq

/-- The name of a kind. -/
def Bracket.name : Bracket → Text
  | .array => "array"
  | .object => "object"

/-- Why a text is not read. Lines and columns count from one, positions from zero. -/
inductive ReadError
  | malformed (complaint : Complaint) (line column position : Nat)
  | longInteger (digits : Nat)
  /-- Too many arrays and objects inside each other; the innermost is of the given kind. -/
  | tooDeep (bracket : Bracket)
  deriving DecidableEq

/-- The wording of a failure to read. -/
def ReadError.message : ReadError → Text
  | .malformed complaint line column position =>
    complaint.message ++ ": line " ++ Number.naturalText line ++ " column " ++
      Number.naturalText column ++ " (char " ++ Number.naturalText position ++ ")"
  | .longInteger digits =>
    "Exceeds the limit (" ++ Number.naturalText Number.maxIntegerDigits ++
      " digits) for integer string conversion: value has " ++ Number.naturalText digits ++
      " digits; use sys.set_int_max_str_digits() to increase the limit"
  | .tooDeep bracket =>
    "maximum recursion depth exceeded while decoding a JSON " ++ bracket.name ++
      " from a unicode string"

end Json

end TableQuery
