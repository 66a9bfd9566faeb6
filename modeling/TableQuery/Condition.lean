import TableQuery.Failure
import TableQuery.Table
import TableQuery.Value.Comparison

/-!
# Conditions

* `Value.number`: a value forced to a double, or the fault that it is too large.
* `Operator.holds`: whether a field and a literal stand in the relation of an operator.
* `Filter`: what a `WHERE` clause says.
* `Filter.mark`: which rows satisfy a filter.
* `Filter.select`: the rows that satisfy a filter.
-/

namespace TableQuery

open Number Text

/-- A value forced to a double. -/
def Value.number (value : Value) : Except Fault Double :=
  match value.toDouble? with
  | some x => .ok x
  | none => .error .integerTooLarge

/-- Whether two numbers are in the relation of an ordering operator. -/
def Operator.orders (operator : Operator) (left right : Extended) : Except Fault Bool :=
  match operator with
  | .greater => .ok (right.lt left)
  | .less => .ok (left.lt right)
  | .greaterEqual => .ok (!left.lt right)
  | .lessEqual => .ok (!right.lt left)
  | operator => .error (.unknownOperator operator.symbol)

/-- Whether a field and a literal stand in the relation of an operator. Equality is loose,
`LIKE` looks for the literal less its percent signs, and the rest compare doubles; a value that
is not numeric is in no order to anything. -/
def Operator.holds (operator : Operator) (field literal : Value) : Except Fault Bool :=
  match operator with
  | .equal => field.looselyEqual literal
  | .notEqual => do return !(← field.looselyEqual literal)
  | .like => do return occursIn (← likeNeedle literal) (← field.format)
  | operator => do
    let left ← field.number
    let right ← literal.number
    match left.extended?, right.extended? with
    | some a, some b => operator.orders a b
    | _, _ => .ok false

/-- A comparison of a column with a literal. -/
structure Comparison where
  column : Text
  operator : Operator
  literal : Value
  deriving DecidableEq

/-- A `WHERE` clause: a single comparison, or a text that is none. -/
inductive Filter
  | comparison (comparison : Comparison)
  | unparsed (text : Text)
  deriving DecidableEq

namespace Filter

/-- Whether a row satisfies a filter. No row satisfies an unparsed one. -/
def admits (filter : Filter) (row : Row) : Except Fault Bool :=
  match filter with
  | .comparison c => c.operator.holds (row.get c.column) c.literal
  | .unparsed _ => .ok false

/-- Mark each row with whether it satisfies a filter. -/
def mark (filter : Filter) : List Row → Except Fault (List (Row × Bool))
  | [] => .ok []
  | row :: rows => do
    let hit ← filter.admits row
    let marked ← mark filter rows
    return (row, hit) :: marked

end Filter

/-- The rows among marked ones that are marked with a given answer. -/
def markedWith (answer : Bool) (marked : List (Row × Bool)) : List Row :=
  (marked.filter fun entry => entry.2 == answer).map Prod.fst

/-- The rows that satisfy a filter, in their order. -/
def Filter.select (filter : Filter) (rows : List Row) : Except Fault (List Row) := do
  return markedWith true (← filter.mark rows)

end TableQuery
