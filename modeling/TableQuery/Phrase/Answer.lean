import TableQuery.Condition
import TableQuery.Limit
import TableQuery.Phrase.Plan
import TableQuery.Sorting

/-!
# Answers to phrases

* `satisfies`: whether a field satisfies a relation to the numbers of a phrase.
* `sortByText`: the order of phrases, numbers by value and other pairs by lower-case text.
* `Plan.run`: filter, order and limit.
* `Plan.answer`: the records that a plan yields.
-/

namespace TableQuery

open Number Text

/-! ### Filter -/

/-- Whether a number stands in a relation to the first of some numbers, or without a relation
is one of them. -/
def numberMatches (x : Double) (relation : Option Relation) (numbers : List Nat) : Bool :=
  match x.extended?, numbers with
  | some place, first :: _ =>
    match relation with
    | some .greater => (Extended.ofInt first).lt place
    | some .less => place.lt (Extended.ofInt first)
    | some .equal => place == Extended.ofInt first
    | none => numbers.any fun n => place == Extended.ofInt n
  | _, _ => false

/-- Whether a field satisfies a relation to some numbers. A text that is not numeric does if
the first number occurs in it. -/
def satisfies (value : Value) (relation : Option Relation) (numbers : List Nat) :
    Except Fault Bool :=
  let isNumeric := match value with
    | .int _ | .float _ => true
    | .text t => isNumeral t
    | _ => false
  if isNumeric then do
    let x ← value.number
    return numberMatches x relation numbers
  else
    match value, numbers with
    | .text t, first :: _ =>
      .ok (occursIn (naturalText first) (lower t))
    | _, _ => .ok false

/-- Whether one of some fields of a row satisfies a relation; the search stops at the first. -/
def anyMatches (row : Row) (relation : Option Relation) (numbers : List Nat) :
    List Text → Except Fault Bool
  | [] => .ok false
  | column :: columns => do
    if ← satisfies (row.get column) relation numbers then return true
    else anyMatches row relation numbers columns

/-- The rows one of whose fields satisfies a relation. -/
def keepMatching (columns : List Text) (relation : Option Relation) (numbers : List Nat) :
    List Row → Except Fault (List Row)
  | [] => .ok []
  | row :: rows => do
    let hit ← anyMatches row relation numbers columns
    let kept ← keepMatching columns relation numbers rows
    return if hit then row :: kept else kept

/-! ### Order -/

/-- The order of two values in a phrase: two numbers are in the order of numbers and other pairs in
the order of their texts in lower case. -/
def compareInPhrase (a b : Value) : Except Fault Ordering :=
  if a.isNumber && b.isNumber then .ok (compareNumbers a.place? b.place?)
  else do return compareTexts (lower (← a.format)) (lower (← b.format))

/-- Rows ordered by a column. -/
def sortByText (column : Text) (descending : Bool) (rows : List Row) : Except Fault (List Row) :=
  let comesBefore (a b : Row) : Except Fault Bool := do
    return (← compareInPhrase (a.get column) (b.get column)) == .lt
  Sorting.sort comesBefore descending rows

/-! ### Plans -/

/-- The rows that satisfy a plan, which asks for something only with a column and a number. -/
def Plan.filter (plan : Plan) (rows : List Row) : Except Fault (List Row) :=
  if plan.columns.isEmpty || plan.numbers.isEmpty then .ok rows
  else keepMatching plan.columns plan.relation plan.numbers rows

/-- Rows in the order of a plan. -/
def Plan.order (plan : Plan) (rows : List Row) : Except Fault (List Row) :=
  match plan.sortColumn with
  | none => .ok rows
  | some column => sortByText column plan.descending rows

/-- The rows that a plan yields. -/
def Plan.run (plan : Plan) (rows : List Row) : Except Fault (List Row) :=
  if plan.active then do
    let rows ← plan.filter rows
    let rows ← plan.order rows
    return match plan.limit with
      | none => rows
      | some limit => takeLimit limit rows
  else .ok rows

/-- What a phrase yields: columns with records, and the plan behind them. -/
structure Answer where
  plan : Plan
  columns : List Text
  rows : List Record
  deriving DecidableEq

namespace Answer

/-- The heading under which an answer is reported. -/
def title : Text := "Query executed"

/-- The description of an answer. -/
def message (answer : Answer) : Text :=
  "Found " ++ naturalText answer.rows.length ++ " results based on your natural language query"

end Answer

/-- Run a plan on a table. -/
def Plan.answer (plan : Plan) (table : Table) : Except Fault Answer := do
  let rows ← plan.run table.rows
  return ⟨plan, table.columns, projection rows table.columns⟩

end TableQuery
