import TableQuery.Query.Lexeme
import TableQuery.Query.Statement

/-!
# Parsing statements

A parser takes tokens and hands on those it leaves. It stops at the first token that cannot
continue a statement, or at the end of the tokens.

* `Filter.ofTokens`: the first three tokens of a clause decide whether it is a comparison.
* `Alteration.ofTokens`: exactly three tokens make a supported change.
* `parseHead`, `filterClause`, `parseTail`: the parts of a statement.
* `parseTokens`: a whole statement, with one semicolon at its end or none.
* `classify`: the keyword that tells which statement a text is.
* `Statement.parse`: the statement that a text is.
-/

namespace TableQuery

open Number Text

/-- The token that cannot be continued from, or the end. -/
abbrev Obstacle := Option Token

/-! ### Single tokens -/

/-- Take a token for which there is a reading. -/
def takeToken {α : Type} (reading : Token → Option α) :
    List Token → Except Obstacle (α × List Token)
  | [] => .error none
  | token :: rest =>
    match reading token with
    | some a => .ok (a, rest)
    | none => .error (some token)

/-- Take a token of a kind. -/
def expect (kind : TokenKind) : List Token → Except Obstacle (Unit × List Token) :=
  takeToken fun token => if token.kind = kind then some () else none

/-- The text of a name. -/
def nameOf? (token : Token) : Option Text :=
  if token.isName then some token.text else none

/-- The text of a name, or the star. -/
def selectItemOf? (token : Token) : Option Text :=
  if token.isName || token.kind == .star then some token.text else none

/-- The value of a literal in an assignment or a comparison: numeric text is a number, quoted
or not. -/
def literalOf? (token : Token) : Option Value :=
  if token.isValue then some (.ofText token.text) else none

/-- The value of a literal in a list of values, where quoted text stays text. -/
def insertedValueOf? (token : Token) : Option Value :=
  if token.kind = .number then some (.ofText token.text)
  else if token.isName then some (.text token.text)
  else none

/-- Take tokens that have a reading, with commas between them. -/
def takeCommaSeparated {α : Type} (reading : Token → Option α) :
    List Token → Except Obstacle (List α × List Token)
  | [] => .error none
  | token :: rest =>
    match reading token, rest with
    | none, _ => .error (some token)
    | some a, [] => .ok ([a], [])
    | some a, next :: rest =>
      if next.kind = .comma then do
        let (more, rest) ← takeCommaSeparated reading rest
        return (a :: more, rest)
      else .ok ([a], next :: rest)

/-- Take assignments with commas between them. -/
def takeAssignments : List Token → Except Obstacle (List (Text × Value) × List Token)
  | [] => .error none
  | token :: rest =>
    match nameOf? token, rest with
    | none, _ => .error (some token)
    | some _, [] => .error none
    | some column, sign :: rest =>
      if sign.kind = .equal then
        match rest with
        | [] => .error none
        | token :: rest =>
          match literalOf? token, rest with
          | none, _ => .error (some token)
          | some value, [] => .ok ([(column, value)], [])
          | some value, next :: rest =>
            if next.kind = .comma then do
              let (more, rest) ← takeAssignments rest
              return ((column, value) :: more, rest)
            else .ok ([(column, value)], next :: rest)
      else .error (some sign)

/-! ### Clauses -/

/-- The operator that a token stands for. -/
def Operator.ofToken? (token : Token) : Option Operator :=
  match token.kind with
  | .equal => some .equal
  | .notEqual => some .notEqual
  | .less => some .less
  | .lessEqual => some .lessEqual
  | .greater => some .greater
  | .greaterEqual => some .greaterEqual
  | .keyword .LIKE => some .like
  | _ => none

/-- The comparison that the first three tokens of a clause make, and the tokens after it. -/
def comparisonOf? : List Token → Option (Comparison × List Token)
  | column :: operator :: literal :: rest => do
    let column ← nameOf? column
    let operator ← Operator.ofToken? operator
    let literal ← literalOf? literal
    return (⟨column, operator, literal⟩, rest)
  | _ => none

/-- The filter that the tokens of a clause make. Tokens after a comparison are ignored. -/
def Filter.ofTokens (clause : List Token) : Filter :=
  match comparisonOf? clause with
  | some (c, _) => .comparison c
  | none => .unparsed (Token.joinTexts clause)

/-- The tokens that a `WHERE` clause takes in: all but those that can follow it. -/
def inFilterClause (token : Token) : Bool :=
  !(token.isKeyword .ORDER || token.isKeyword .LIMIT || token.kind == .semicolon)

/-- The tokens of a `WHERE` clause, if there is one, and the tokens after it. -/
def filterClause : List Token → Option (List Token) × List Token
  | [] => (none, [])
  | token :: rest =>
    if token.isKeyword .WHERE then
      (some (rest.takeWhile inFilterClause), rest.dropWhile inFilterClause)
    else (none, token :: rest)

/-- An `ORDER BY` clause, if there is one. -/
def orderClause (tokens : List Token) : Except Obstacle (Option SortOrder × List Token) :=
  match tokens with
  | [] => .ok (none, [])
  | token :: rest =>
    if token.isKeyword .ORDER then do
      let (_, rest) ← expect (.keyword .BY) rest
      let (column, rest) ← takeToken nameOf? rest
      match rest with
      | [] => return (some ⟨column, false⟩, [])
      | token :: rest =>
        if token.isKeyword .ASC then return (some ⟨column, false⟩, rest)
        else if token.isKeyword .DESC then return (some ⟨column, true⟩, rest)
        else return (some ⟨column, false⟩, token :: rest)
    else .ok (none, token :: rest)

/-- The longest limit that is honoured, in digits. -/
def limitDigits : Nat := 18

/-- The limit that a numeral sets: one of digits only, and not too many. -/
def limitOf? (numeral : Text) : Option Nat :=
  if isAllDigits numeral && numeral.length ≤ limitDigits then
    some (positional (numeral.filterMap digitValue?))
  else none

/-- The numeral of a `LIMIT` clause, if there is one. -/
def limitClause (tokens : List Token) : Except Obstacle (Option Text × List Token) :=
  match tokens with
  | [] => .ok (none, [])
  | token :: rest =>
    if token.isKeyword .LIMIT then
      (takeToken (fun token => if token.kind = .number then some token.text else none) rest).map
        fun (numeral, rest) => (some numeral, rest)
    else .ok (none, token :: rest)

/-- The change that the tokens after the name of a table make. -/
def Alteration.ofTokens (action : List Token) : Alteration :=
  match action with
  | [first, second, target] =>
    match first.kind, second.kind, nameOf? target with
    | .keyword .RENAME, .keyword .TO, some name => .rename name
    | .keyword .ADD, .keyword .COLUMN, some column => .addColumn column
    | .keyword .DROP, .keyword .COLUMN, some column => .dropColumn column
    | _, _, _ => .unsupported (Token.joinTexts action)
  | _ => .unsupported (Token.joinTexts action)

/-! ### Statements -/

/-- A statement up to where a `WHERE` clause can stand, or a whole one that has none. -/
inductive Head
  | select (columns : List Text) (table : Text)
  | update (table : Text) (assignments : List (Text × Value))
  | delete (table : Text)
  | complete (statement : Statement)

/-- Whether a `WHERE` clause can follow. -/
def Head.takesFilter : Head → Bool
  | .complete _ => false
  | _ => true

/-- The rest of a `SELECT` up to the name of the table. -/
def selectHead (tokens : List Token) : Except Obstacle (Head × List Token) := do
  let (columns, tokens) ← takeCommaSeparated selectItemOf? tokens
  let (_, tokens) ← expect (.keyword .FROM) tokens
  let (table, tokens) ← takeToken nameOf? tokens
  return (.select columns table, tokens)

/-- A list in parentheses. -/
def takeList {α : Type} (reading : Token → Option α) (tokens : List Token) :
    Except Obstacle (List α × List Token) := do
  let (_, tokens) ← expect .leftParen tokens
  let (items, tokens) ← takeCommaSeparated reading tokens
  let (_, tokens) ← expect .rightParen tokens
  return (items, tokens)

/-- The column list of an `INSERT`, if there is one. -/
def insertColumns (tokens : List Token) : Except Obstacle (Option (List Text) × List Token) :=
  match tokens with
  | [] => .error none
  | token :: rest =>
    if token.kind = .leftParen then
      (takeList nameOf? (token :: rest)).map fun (columns, rest) => (some columns, rest)
    else if token.isKeyword .VALUES then .ok (none, token :: rest)
    else .error (some token)

/-- The rest of an `INSERT`. -/
def insertHead (tokens : List Token) : Except Obstacle (Head × List Token) := do
  let (_, tokens) ← expect (.keyword .INTO) tokens
  let (table, tokens) ← takeToken nameOf? tokens
  let (columns, tokens) ← insertColumns tokens
  let (_, tokens) ← expect (.keyword .VALUES) tokens
  let (values, tokens) ← takeList insertedValueOf? tokens
  return (.complete (.insert ⟨table, columns, values⟩), tokens)

/-- The rest of an `UPDATE` up to its assignments. -/
def updateHead (tokens : List Token) : Except Obstacle (Head × List Token) := do
  let (table, tokens) ← takeToken nameOf? tokens
  let (_, tokens) ← expect (.keyword .SET) tokens
  let (assignments, tokens) ← takeAssignments tokens
  return (.update table assignments, tokens)

/-- The rest of a `DELETE` up to the name of the table. -/
def deleteHead (tokens : List Token) : Except Obstacle (Head × List Token) := do
  let (_, tokens) ← expect (.keyword .FROM) tokens
  let (table, tokens) ← takeToken nameOf? tokens
  return (.delete table, tokens)

/-- The tokens that an `ALTER TABLE` takes in. -/
def inAction (token : Token) : Bool :=
  token.kind != .semicolon

/-- The rest of an `ALTER`. -/
def alterHead (tokens : List Token) : Except Obstacle (Head × List Token) := do
  let (_, tokens) ← expect (.keyword .TABLE) tokens
  let (table, tokens) ← takeToken nameOf? tokens
  return (.complete (.alter table (.ofTokens (tokens.takeWhile inAction))),
    tokens.dropWhile inAction)

/-- A statement up to where a `WHERE` clause can stand. -/
def parseHead (tokens : List Token) : Except Obstacle (Head × List Token) :=
  match tokens with
  | [] => .error none
  | token :: rest =>
    match token.kind with
    | .keyword .SELECT => selectHead rest
    | .keyword .INSERT => insertHead rest
    | .keyword .UPDATE => updateHead rest
    | .keyword .DELETE => deleteHead rest
    | .keyword .ALTER => alterHead rest
    | _ => .error (some token)

/-- The part of a statement after its `WHERE` clause. -/
def parseTail (head : Head) (filter : Option Filter) (tokens : List Token) :
    Except Obstacle (Statement × List Token) :=
  match head with
  | .select columns table => do
    let (order, tokens) ← orderClause tokens
    let (limit, tokens) ← limitClause tokens
    return (.select ⟨table, columns, filter, order, limit.bind limitOf?⟩, tokens)
  | .update table assignments => .ok (.update ⟨table, assignments, filter⟩, tokens)
  | .delete table => .ok (.delete ⟨table, filter⟩, tokens)
  | .complete statement => .ok (statement, tokens)

/-- The `WHERE` clause after a head that takes one. -/
def Head.clause (head : Head) (tokens : List Token) : Option (List Token) × List Token :=
  if head.takesFilter then filterClause tokens else (none, tokens)

/-- Nothing more than one semicolon may follow a statement. -/
def expectEnd : List Token → Except Obstacle Unit
  | [] => .ok ()
  | token :: rest => if token.kind = .semicolon ∧ rest = [] then .ok ()
    else if token.kind = .semicolon then .error rest.head?
    else .error (some token)

/-- The statement that a list of tokens is, or the token where it stops being one. -/
def parseTokens (tokens : List Token) : Except Obstacle Statement := do
  let (head, tokens) ← parseHead tokens
  let (clause, tokens) := head.clause tokens
  let (statement, tokens) ← parseTail head (clause.map Filter.ofTokens) tokens
  expectEnd tokens
  return statement

/-! ### Texts -/

/-- The keywords that start a statement. -/
def leadingKeywords : List Keyword :=
  [.ALTER, .UPDATE, .DELETE, .INSERT, .SELECT]

/-- The keyword that tells which statement a list of tokens is. -/
def classifyTokens (tokens : List Token) : Except QueryError Keyword :=
  match tokens.head?.bind fun token => leadingKeywords.find? (token.isKeyword ·) with
  | some keyword => .ok keyword
  | none =>
    if tokens.any (Token.isKeyword .SELECT) then .error .misplacedSelect
    else .error .unsupportedStatement

/-- The keyword that tells which statement a text is. -/
def classify (text : Text) : Except QueryError Keyword :=
  classifyTokens (tokenize text)

/-- The syntax error at a token, or at the end. -/
def QueryError.atToken (token : Option Token) : QueryError :=
  .malformed (token.map fun token => (token.text, token.position))

/-- The statement that a text is, blanks around it apart. -/
def Statement.parse (text : Text) : Except QueryError Statement := do
  let tokens := tokenize (trim text)
  let _ ← classifyTokens tokens
  (parseTokens tokens).mapError .atToken

end TableQuery
