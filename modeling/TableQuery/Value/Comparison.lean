import TableQuery.Failure
import TableQuery.Text.Case
import TableQuery.Text.Search

/-!
# Comparing values

* `Value.format`: a value written as text, or the fault that it is overlong.
* `Value.looselyEqual`: numbers against numbers and numeric texts by value, everything else by
  its text.
* `Operator`: the comparison operators of a condition.
* `compareNumbers`: the order of two exact numbers, in which a NaN is level with everything.
* `likeNeedle`: what `LIKE` looks for.
-/

namespace TableQuery

open Number Text

/-- Two exact numbers are equal; a NaN, which has no exact number, is equal to nothing. -/
def sameNumber : Option Extended → Option Extended → Bool
  | some a, some b => a == b
  | _, _ => false

/-- The order of two exact numbers. A NaN is level with everything. -/
def compareNumbers : Option Extended → Option Extended → Ordering
  | some a, some b => if a.lt b then .lt else if b.lt a then .gt else .eq
  | _, _ => .eq

/-- The order of two texts, code point by code point. -/
def compareTexts (a b : Text) : Ordering :=
  if a.map Point.value < b.map Point.value then .lt
  else if b.map Point.value < a.map Point.value then .gt
  else .eq

/-- The exact number that a numeric text denotes after rounding to a double. -/
def numericText? : Value → Option Double
  | .text t => (numeral? t).map Numeral.toDouble
  | _ => none

namespace Value

/-- The text of a value; an overlong integer has none. -/
def format (value : Value) : Except Fault Text :=
  if value.isOverlong then .error .integerOverlong else .ok value.written

/-- Equality of a field and a literal. An absent value equals only an absent value, a number
equals the numbers and the numeric texts of its value, and other pairs are compared as texts. -/
def looselyEqual (field literal : Value) : Except Fault Bool :=
  if field = .null ∨ literal = .null then .ok (field == literal)
  else if field.isNumber && literal.isNumber then .ok (sameNumber field.place? literal.place?)
  else
    match field.isNumber, numericText? literal with
    | true, some x => .ok (sameNumber field.place? x.extended?)
    | _, _ =>
      match literal.isNumber, numericText? field with
      | true, some x => .ok (sameNumber x.extended? literal.place?)
      | _, _ => do return (← field.format) == (← literal.format)

end Value

/-- A comparison operator. Conditions that do not come from a query may name any other. -/
inductive Operator
  | equal
  | notEqual
  | less
  | lessEqual
  | greater
  | greaterEqual
  | like
  | other (symbol : Text)
  deriving DecidableEq

namespace Operator

/-- How an operator is written. -/
def symbol : Operator → Text
  | .equal => "="
  | .notEqual => "!="
  | .less => "<"
  | .lessEqual => "<="
  | .greater => ">"
  | .greaterEqual => ">="
  | .like => "LIKE"
  | .other symbol => symbol

/-- The operator with a given spelling. -/
def ofSymbol (symbol : Text) : Operator :=
  if symbol = "=" then .equal
  else if symbol = "!=" then .notEqual
  else if symbol = "<" then .less
  else if symbol = "<=" then .lessEqual
  else if symbol = ">" then .greater
  else if symbol = ">=" then .greaterEqual
  else if symbol = "LIKE" then .like
  else .other symbol

theorem symbol_ofSymbol (s : Text) : (ofSymbol s).symbol = s := by
  simp only [ofSymbol]
  repeat' split
  all_goals simp_all [symbol]

end Operator

/-- What `LIKE` looks for: the text of the literal without its percent signs. -/
def likeNeedle (literal : Value) : Except Fault Text :=
  literal.format.map fun t => t.filter (· != '%')

end TableQuery
