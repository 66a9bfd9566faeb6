import TableQuery.Json.Basic
import TableQuery.Text.Hex

/-!
# Reading JSON

The reader consumes a text and hands on the rest. Where it stops it names its complaint and what
was left of the text, which gives the position.

* `Json.readString`: a string after its opening quote.
* `Json.readNumber?`: a number, as long as possible.
* `Json.maxNesting`: how many arrays and objects can stand inside each other.
* `Json.readValue`: a value; its first argument bounds the steps and is never used up, the second
  is how many levels of nesting are left.
* `Json.read`: a whole text.

The constants `NaN`, `Infinity` and `-Infinity` are accepted. A name that comes again in an
object overwrites the value and keeps the place.
-/

namespace TableQuery.Json

open Number Text

/-- Why reading stopped. -/
inductive Stop
  | complaint (what : Complaint) (rest : Text)
  | longInteger (digits : Nat)
  | tooDeep (bracket : Bracket)

/-- The blanks between the parts of a document. -/
def isSpace (p : Point) : Bool :=
  p == ' ' || p == '\t' || p == '\n' || p == '\r'

/-- What follows the blanks at the front. -/
def skipSpace (t : Text) : Text :=
  t.dropWhile isSpace

/-! ### Strings -/

/-- The character of a one-letter escape. -/
def escaped? (p : Point) : Option Point :=
  if p = '"' || p = '\\' || p = '/' then some p
  else if p = 'b' then some '\x08'
  else if p = 'f' then some '\x0c'
  else if p = 'n' then some '\n'
  else if p = 'r' then some '\r'
  else if p = 't' then some '\t'
  else none

/-- The number that four hexadecimal digits spell. -/
def codeUnit? (a b c d : Point) : Option Nat := do
  let a ← hexValue? a
  let b ← hexValue? b
  let c ← hexValue? c
  let d ← hexValue? d
  return ((a * 16 + b) * 16 + c) * 16 + d

/-- The code units of a string and what follows its closing quote. `opening` is the text from
the opening quote on. A numeric escape has to be followed by a further code point. -/
def readUnits (opening : Text) : Text → Except Stop (List Nat × Text)
  | [] => .error (.complaint .unterminatedString opening)
  | .char '"' :: rest => .ok ([], rest)
  | .char '\\' :: rest =>
    match rest with
    | [] => .error (.complaint .unterminatedString opening)
    | .char 'u' :: a :: b :: c :: d :: next :: rest =>
      match codeUnit? a b c d with
      | none => .error (.complaint .unicodeEscape ('u' :: a :: b :: c :: d :: next :: rest))
      | some unit => do
        let (units, rest) ← readUnits opening (next :: rest)
        return (unit :: units, rest)
    | .char 'u' :: rest => .error (.complaint .unicodeEscape ('u' :: rest))
    | p :: rest =>
      match escaped? p with
      | none => .error (.complaint .escape ('\\' :: p :: rest))
      | some p => do
        let (units, rest) ← readUnits opening rest
        return (p.value :: units, rest)
  | p :: rest =>
    if p.value < 0x20 then .error (.complaint .controlCharacter (p :: rest))
    else do
      let (units, rest) ← readUnits opening rest
      return (p.value :: units, rest)

/-- The first half of a surrogate pair. -/
def isHighHalf (n : Nat) : Bool :=
  0xD800 ≤ n && n < 0xDC00

/-- The second half of a surrogate pair. -/
def isLowHalf (n : Nat) : Bool :=
  0xDC00 ≤ n && n < 0xE000

/-- Join the two halves of each surrogate pair. A half that stands alone is kept. -/
def joinPairs : List Nat → List Nat
  | high :: low :: rest =>
    if isHighHalf high && isLowHalf low then
      (0x10000 + (high - 0xD800) * 0x400 + (low - 0xDC00)) :: joinPairs rest
    else high :: joinPairs (low :: rest)
  | units => units

/-- A string whose opening quote is the first character of `opening`. -/
def readString (opening : Text) : Except Stop (Text × Text) := do
  let (units, rest) ← readUnits opening (opening.drop 1)
  return ((joinPairs units).map Point.ofNat, rest)

/-! ### Numbers -/

/-- A digit from `0` to `9`. -/
def isAsciiDigit (p : Point) : Bool :=
  0x30 ≤ p.value && p.value ≤ 0x39

/-- The values of the digits from `0` to `9` at the front, and what follows them. -/
def takeAsciiDigits (t : Text) : List Nat × Text :=
  ((t.takeWhile isAsciiDigit).map fun p => p.value - 0x30, t.dropWhile isAsciiDigit)

/-- A fraction at the front: a point that is followed by a digit. -/
def readFraction (t : Text) : Option (List Nat) × Text :=
  match t with
  | .char '.' :: rest =>
    let (digits, rest) := takeAsciiDigits rest
    if digits.isEmpty then (none, t) else (some digits, rest)
  | _ => (none, t)

/-- An exponent at the front; without digits there is none. -/
def readExponent (t : Text) : Option Int × Text :=
  match t with
  | p :: rest =>
    if p = 'e' ∨ p = 'E' then
      let (negative, rest) := takeSign rest
      let (digits, rest) := takeAsciiDigits rest
      if digits.isEmpty then (none, t)
      else (some (if negative then -(positional digits : Int) else positional digits), rest)
    else (none, t)
  | [] => (none, t)

/-- The longest number at the front. Its whole part has no superfluous zero. -/
def readNumber? (t : Text) : Option (Numeral × Text) :=
  let (negative, rest) := match t with
    | .char '-' :: rest => (true, rest)
    | _ => (false, t)
  let (whole, rest) := match rest with
    | .char '0' :: rest => ([0], rest)
    | _ => takeAsciiDigits rest
  if whole.isEmpty then none
  else
    let (fraction, rest) := readFraction rest
    let (exponent, rest) := readExponent rest
    some (⟨negative, whole, fraction, exponent⟩, rest)

/-- The value of a number; an integer must not be overlong. -/
def numberValue (numeral : Numeral) : Except Stop Value :=
  if numeral.fraction.isNone && numeral.exponent.isNone then
    match numeral.toInt? with
    | some n => .ok (.int n)
    | none => .error (.longInteger numeral.whole.length)
  else .ok (.float numeral.toDouble)

/-! ### Values -/

/-- What follows a word at the front, if the word is there. -/
def after? (word t : Text) : Option Text :=
  if word.isPrefixOf t then some (t.drop word.length) else none

/-- The words that stand for a value. -/
def constants : List (Text × Value) :=
  [("null", .null), ("true", .bool true), ("false", .bool false), ("NaN", .float .nan),
   ("Infinity", .float (.infinite false)), ("-Infinity", .float (.infinite true))]

/-- A constant or a number at the front. -/
def readScalar (t : Text) : Except Stop (Value × Text) :=
  match constants.findSome? fun (word, value) => (after? word t).map fun rest => (value, rest) with
  | some found => .ok found
  | none =>
    match readNumber? t with
    | none => .error (.complaint .noValue t)
    | some (numeral, rest) => (numberValue numeral).map fun value => (value, rest)

/-- How many arrays and objects can stand inside each other. -/
def maxNesting : Nat := 985

mutual

/-- A value at the front. -/
def readValue : Nat → Nat → Text → Except Stop (Json × Text)
  | 0, _, t => .error (.complaint .noValue t)
  | fuel + 1, levels, t =>
    match t with
    | .char '"' :: _ => do
      let (text, rest) ← readString t
      return (.scalar (.text text), rest)
    | .char '[' :: rest =>
      match levels with
      | 0 => .error (.tooDeep .array)
      | levels + 1 =>
        match skipSpace rest with
        | .char ']' :: rest => .ok (.array [], rest)
        | rest => do
          let (items, rest) ← readItems fuel levels rest
          return (.array items, rest)
    | .char '{' :: rest =>
      match levels with
      | 0 => .error (.tooDeep .object)
      | levels + 1 =>
        match skipSpace rest with
        | .char '}' :: rest => .ok (.object [], rest)
        | rest => do
          let (fields, rest) ← readFields fuel levels [] rest
          return (.object fields, rest)
    | _ => do
      let (value, rest) ← readScalar t
      return (.scalar value, rest)

/-- The items of an array up to its closing bracket. -/
def readItems : Nat → Nat → Text → Except Stop (List Json × Text)
  | 0, _, t => .error (.complaint .noValue t)
  | fuel + 1, levels, t => do
    let (item, rest) ← readValue fuel levels t
    match skipSpace rest with
    | .char ']' :: rest => return ([item], rest)
    | .char ',' :: rest => do
      let (items, rest) ← readItems fuel levels (skipSpace rest)
      return (item :: items, rest)
    | rest => .error (.complaint .noComma rest)

/-- The fields of an object up to its closing brace, added to those read before. -/
def readFields : Nat → Nat → List (Text × Json) → Text →
    Except Stop (List (Text × Json) × Text)
  | 0, _, _, t => .error (.complaint .noValue t)
  | fuel + 1, levels, fields, t =>
    match t with
    | .char '"' :: _ => do
      let (name, rest) ← readString t
      match skipSpace rest with
      | .char ':' :: rest => do
        let (value, rest) ← readValue fuel levels (skipSpace rest)
        let fields := Fields.insert name value fields
        match skipSpace rest with
        | .char '}' :: rest => return (fields, rest)
        | .char ',' :: rest => readFields fuel levels fields (skipSpace rest)
        | rest => .error (.complaint .noComma rest)
      | rest => .error (.complaint .noColon rest)
    | _ => .error (.complaint .noName t)

end

/-- The line and the column of the end of a text, given those of its start. -/
def placeAfter (line column : Nat) : Text → Nat × Nat
  | [] => (line, column)
  | p :: rest =>
    if p = '\n' then placeAfter (line + 1) 1 rest else placeAfter line (column + 1) rest

/-- The place of a stop in the text that was read. -/
def Stop.toError (text : Text) : Stop → ReadError
  | .complaint what rest =>
    let position := text.length - rest.length
    let (line, column) := placeAfter 1 1 (text.take position)
    .malformed what line column position
  | .longInteger digits => .longInteger digits
  | .tooDeep bracket => .tooDeep bracket

/-- Read a text that is, as a whole, one document, up to the reason why it is not. -/
def readAll (text : Text) : Except Stop Json :=
  if text.head? = some (.char '\uFEFF') then .error (.complaint .byteOrderMark text)
  else do
    let (json, rest) ← readValue (2 * text.length + 2) maxNesting (skipSpace text)
    match skipSpace rest with
    | [] => return json
    | rest => .error (.complaint .extraData rest)

/-- Read a text that is, as a whole, one document. -/
def read (text : Text) : Except ReadError Json :=
  (readAll text).mapError (Stop.toError text)

end TableQuery.Json
