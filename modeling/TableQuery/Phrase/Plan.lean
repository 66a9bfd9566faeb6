import TableQuery.Table
import TableQuery.Text.Case
import TableQuery.Text.Search

/-!
# Plans of natural-language phrases

A phrase is not parsed: words and numbers that occur anywhere in its lower-case form make up a
plan.

* `Relation.inPhrase?`: the relation whose words occur.
* `numbersIn`: the numbers that occur; overlong ones are left out.
* `Plan`: what a phrase asks for.
* `Plan.ofPhrase`: the plan of a phrase over a table.
-/

namespace TableQuery

open Number Text

/-- How a field has to stand to the first number of a phrase. -/
inductive Relation
  | greater
  | less
  | equal
  deriving DecidableEq

/-- Whether one of some words occurs in a text. -/
def mentions (text : Text) (words : List Text) : Bool :=
  words.any fun word => occursIn word text

namespace Relation

/-- The name of a relation. -/
def name : Relation → Text
  | .greater => "greater"
  | .less => "less"
  | .equal => "equal"

/-- The words that ask for each relation. -/
def phrases : List (Relation × List Text) :=
  [(.greater, ["greater than", "more than", ">"]),
   (.less, ["less than", "smaller than", "<"]),
   (.equal, ["equal to", "equals", "="])]

/-- The first relation one of whose words occurs. -/
def inPhrase? (text : Text) : Option Relation :=
  (phrases.find? fun entry => mentions text entry.2).map Prod.fst

end Relation

/-- The runs of digits of a text, after the digits of a run that has begun, last one first. -/
def digitRunsAfter (run : List Nat) : Text → List (List Nat)
  | [] => if run.isEmpty then [] else [run.reverse]
  | p :: rest =>
    match digitValue? p with
    | some d => digitRunsAfter (d :: run) rest
    | none => (if run.isEmpty then [] else [run.reverse]) ++ digitRunsAfter [] rest

/-- The runs of digits of a text. -/
def digitRuns (text : Text) : List (List Nat) :=
  digitRunsAfter [] text

/-- A run of digits that is not too long to be an integer. -/
def isReadable (run : List Nat) : Bool :=
  run.length ≤ maxIntegerDigits

/-- The numbers of a text, without those that are too long. -/
def numbersIn (text : Text) : List Nat :=
  ((digitRuns text).filter isReadable).map positional

/-- What a phrase asks for. An inactive plan keeps all rows as they are. -/
structure Plan where
  phrase : Text
  active : Bool
  columns : List Text
  relation : Option Relation
  numbers : List Nat
  sortColumn : Option Text
  descending : Bool
  limit : Option Int
  deriving DecidableEq

namespace Plan

/-- The words without which a phrase asks for nothing. -/
def activeWords : List Text := ["show", "get", "find"]

/-- The words that ask for an order. -/
def sortWords : List Text := ["sort by", "order by"]

/-- The words that ask for a descending order. -/
def descendingWords : List Text := ["descending", "high to low", "desc"]

/-- The words that make the first number a limit. -/
def limitingWords : List Text := ["limit", "top"]

/-- How many rows a phrase yields when it does not say. -/
def defaultLimit : Int := 10

/-- The plan of a phrase without a trigger word. -/
def inactive (phrase : Text) : Plan :=
  ⟨phrase, false, [], none, [], none, false, none⟩

/-- The plan of a phrase over a table. -/
def ofPhrase (defaultLimit : Int) (phrase : Text) (table : Table) : Plan :=
  let text := lower phrase
  if mentions text activeWords then
    let columns := table.columns.filter fun column => occursIn (lower column) text
    let numbers := numbersIn text
    let sorts := mentions text sortWords
    let limit := if mentions text limitingWords then numbers.head? else none
    { phrase := phrase
      active := true
      columns := columns
      relation := Relation.inPhrase? text
      numbers := numbers
      sortColumn := if sorts then columns.head?.or table.columns.head? else none
      descending := sorts && mentions text descendingWords
      limit := some ((limit.map Int.ofNat).getD defaultLimit) }
  else inactive phrase

end Plan

end TableQuery
