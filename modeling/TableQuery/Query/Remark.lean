import TableQuery.Log
import TableQuery.Query.Result
import TableQuery.Query.Parser
import TableQuery.Text.Quoted

/-!
# Remarks on queries

Some parts of a query are passed over without an error. A remark says so in the log.

* `Remark`: what is passed over.
* `parseRemarks`: the remarks that parsing makes, also when it fails later on.
* `executionRemarks`: the remarks that execution makes.
-/

namespace TableQuery

open Text

/-- What a query says in vain. -/
inductive Remark
  | droppedFilter (text : Text)
  | trailingTokens (text : Text)
  | ignoredLimit (numeral : Text)
  | ignoredFilter (text : Text)
  deriving DecidableEq

/-- The log entry of a remark. -/
def Remark.entry : Remark → LogEntry
  | .droppedFilter text =>
    ⟨.warning, .parser,
      "WHERE clause " ++ quoted text ++ " is not a single comparison; dropping it"⟩
  | .trailingTokens text => ⟨.debug, .parser, "Ignoring trailing WHERE tokens: " ++ text⟩
  | .ignoredLimit numeral =>
    ⟨.debug, .parser, "Ignoring LIMIT " ++ numeral ++ ": not a non-negative integer"⟩
  | .ignoredFilter text =>
    ⟨.warning, .executor, "Ignoring malformed WHERE clause " ++ quoted text⟩

/-- The remarks on the tokens of a `WHERE` clause. An empty one is passed over in silence. -/
def clauseRemarks (clause : List Token) : List Remark :=
  match comparisonOf? clause with
  | some (_, []) => []
  | some (_, rest) => [.trailingTokens (Token.joinTexts rest)]
  | none => if clause.isEmpty then [] else [.droppedFilter (Token.joinTexts clause)]

/-- The remark on a `LIMIT` clause, which has to be the last clause of its statement. -/
def limitRemarks (tokens : List Token) : List Remark :=
  match orderClause tokens with
  | .error _ => []
  | .ok (_, tokens) =>
    match limitClause tokens with
    | .ok (some numeral, rest) =>
      if (limitOf? numeral).isNone && rest.head?.all (·.kind == .semicolon) then
        [.ignoredLimit numeral]
      else []
    | _ => []

/-- The remarks that parsing makes up to its end or its first error. -/
def parseRemarks (tokens : List Token) : List Remark :=
  match parseHead tokens with
  | .error _ => []
  | .ok (head, tokens) =>
    let (clause, tokens) := head.clause tokens
    let onLimit := match head with
      | .select _ _ => limitRemarks tokens
      | _ => []
    (clause.map clauseRemarks).getD [] ++ onLimit

/-- The remarks on a text. -/
def remarksOn (text : Text) : List Remark :=
  parseRemarks (tokenize (trim text))

/-- The remarks that execution makes: a `SELECT` from the right table with columns that exist
ignores a clause that is no comparison. -/
def executionRemarks (statement : Statement) (table : Table) : List Remark :=
  match statement with
  | .select selection =>
    match selection.filter with
    | some (.unparsed text) =>
      if table.isNamed selection.table && (selection.shownColumns table).isOk then
        [.ignoredFilter text]
      else []
    | _ => []
  | _ => []

end TableQuery
