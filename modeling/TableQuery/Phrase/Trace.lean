import TableQuery.Log
import TableQuery.Phrase.Plan
import TableQuery.Text.Quoted

/-!
# How phrases are logged

* `Plan.text`: a plan with its fields.
* `Plan.entries`: what the log says about a phrase.
-/

namespace TableQuery

open Number Text

/-- A list of texts between brackets. -/
def bracketed (items : List Text) : Text :=
  "[" ++ joinWith ", " items ++ "]"

/-- A truth value as it is logged. -/
def truthText (b : Bool) : Text :=
  if b then "True" else "False"

/-- An optional text as it is logged. -/
def optionText (text : Option Text) : Text :=
  text.getD "None"

/-- A relation as it is logged. -/
def Relation.text (relation : Relation) : Text :=
  let constant := match relation with
    | .greater => "GREATER"
    | .less => "LESS"
    | .equal => "EQUAL"
  "<Comparator." ++ constant ++ ": " ++ quoted relation.name ++ ">"

/-- A plan as it is logged. -/
def Plan.text (plan : Plan) : Text :=
  "NaturalLanguagePlan(phrase=" ++ quoted plan.phrase ++
    ", active=" ++ truthText plan.active ++
    ", columns=" ++ bracketed (plan.columns.map quoted) ++
    ", comparator=" ++ optionText (plan.relation.map Relation.text) ++
    ", numbers=" ++ bracketed (plan.numbers.map naturalText) ++
    ", sort_column=" ++ optionText (plan.sortColumn.map quoted) ++
    ", descending=" ++ truthText plan.descending ++
    ", limit=" ++ optionText (plan.limit.map integerText) ++ ")"

/-- The entry for a number that is too long. -/
def longNumberEntry (run : List Nat) : LogEntry :=
  ⟨.debug, .interpreter,
    "Ignoring a " ++ naturalText run.length ++ "-digit number in the phrase"⟩

/-- What the log says about a phrase: its overlong numbers, if they are looked at, and the plan
as a whole. -/
def Plan.entries (plan : Plan) : List LogEntry :=
  let ignored := (digitRuns (lower plan.phrase)).filter fun run => !isReadable run
  (if plan.active then ignored.map longNumberEntry else []) ++
    [⟨.debug, .interpreter,
      "Natural-language plan for " ++ quoted plan.phrase ++ ": " ++ plan.text⟩]

end TableQuery
