import TableQuery.Number.Numeral
import TableQuery.Number.Shortest
import TableQuery.Text.Blank

/-!
# Field values

* `Value`: what a field of a row can hold.
* `Value.ofText`: numeric text becomes a number, any other text stays as it is.
* `Value.toDouble?`: a value forced to a number; what is not numeric becomes a NaN.
* `Value.place?`: the exact place of a number on the extended line.
* `Value.written`: a value written as text.
* `Value.isOverlong`: the integers that are too long to be written.
* `Value.spelling`: a value used as an identifier or a name.
-/

namespace TableQuery

open Number Text

/-- What a field holds; `null` is also what a missing field reads as. -/
inductive Value
  | null
  | bool (b : Bool)
  | int (n : Int)
  | float (x : Double)
  | text (t : Text)
  deriving DecidableEq

/-- The numeral that a text is, apart from blanks around it. -/
def numeral? (t : Text) : Option Numeral :=
  Numeral.ofText? (trim t)

/-- A text that is a decimal numeral apart from blanks around it. -/
def isNumeral (t : Text) : Bool :=
  (numeral? t).isSome

namespace Value

/-- Read a text as an integer if it is the numeral of one and not overlong, as a double if it is
any other numeral, and as itself, blanks included, otherwise. -/
def ofText (t : Text) : Value :=
  match numeral? t with
  | none => .text t
  | some numeral =>
    match numeral.toInt? with
    | some n => .int n
    | none => .float numeral.toDouble

/-- Integers and doubles; a truth value is no number. -/
def isNumber : Value → Bool
  | .int _ => true
  | .float _ => true
  | _ => false

/-- Force a value to a double. There is none for an integer beyond every double; whatever is
not numeric becomes a NaN. -/
def toDouble? : Value → Option Double
  | .null => some .nan
  | .bool b => some (if b then .unit else .zero)
  | .int n => Double.ofInt? n
  | .float x => some x
  | .text t => some (((numeral? t).map Numeral.toDouble).getD .nan)

/-- The exact place of an integer or a double on the extended line. -/
def place? : Value → Option Extended
  | .int n => some (.ofInt n)
  | .float x => x.extended?
  | _ => none

/-- The text of a value, however long. A double with an integral value is written as that
integer. -/
def written : Value → Text
  | .null => ""
  | .bool b => if b then "True" else "False"
  | .int n => integerText n
  | .float x =>
    match x.toInt? with
    | some n => integerText n
    | none => x.text
  | .text t => t

/-- An integer of too many digits: it is not written. -/
def isOverlong : Value → Bool
  | .int n => maxIntegerDigits < (naturalText n.natAbs).length
  | _ => false

/-- The text of a value that is used as an identifier or a name. -/
def spelling : Value → Text
  | .null => "None"
  | .float x => x.text
  | value => value.written

/-- The values that count as given where an identifier is asked for. -/
def isTruthy : Value → Bool
  | .null => false
  | .bool b => b
  | .int n => n != 0
  | .float x => x.toInt? != some 0
  | .text t => !t.isEmpty

end Value

end TableQuery
