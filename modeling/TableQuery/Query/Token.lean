import TableQuery.Text.Basic

/-!
# Tokens

* `Keyword`: the reserved words, matched without regard to letter case.
* `Keyword.ofLower?_eq_some_iff`: each reserved word is found in the list of them.
* `TokenKind`: keywords, the four kinds of name and literal, and the punctuation.
* `Token`: a kind with its text and its place.
-/

namespace TableQuery

/-- The reserved words. -/
inductive Keyword
  | SELECT | FROM | WHERE | ORDER | BY | ASC | DESC | LIMIT
  | INSERT | INTO | VALUES | UPDATE | SET | DELETE
  | ALTER | TABLE | RENAME | TO | ADD | COLUMN | DROP | LIKE
  deriving DecidableEq

namespace Keyword

/-- The name of a keyword. -/
def name : Keyword → Text
  | .SELECT => "SELECT" | .FROM => "FROM" | .WHERE => "WHERE" | .ORDER => "ORDER" | .BY => "BY"
  | .ASC => "ASC" | .DESC => "DESC" | .LIMIT => "LIMIT" | .INSERT => "INSERT" | .INTO => "INTO"
  | .VALUES => "VALUES" | .UPDATE => "UPDATE" | .SET => "SET" | .DELETE => "DELETE"
  | .ALTER => "ALTER" | .TABLE => "TABLE" | .RENAME => "RENAME" | .TO => "TO" | .ADD => "ADD"
  | .COLUMN => "COLUMN" | .DROP => "DROP" | .LIKE => "LIKE"

/-- The lower-case spellings of the keywords. -/
def reserved : List (Text × Keyword) :=
  [("select", .SELECT), ("from", .FROM), ("where", .WHERE), ("order", .ORDER), ("by", .BY),
   ("asc", .ASC), ("desc", .DESC), ("limit", .LIMIT), ("insert", .INSERT), ("into", .INTO),
   ("values", .VALUES), ("update", .UPDATE), ("set", .SET), ("delete", .DELETE),
   ("alter", .ALTER), ("table", .TABLE), ("rename", .RENAME), ("to", .TO), ("add", .ADD),
   ("column", .COLUMN), ("drop", .DROP), ("like", .LIKE)]

/-- The keyword with a given lower-case spelling. -/
def ofLower? (word : Text) : Option Keyword :=
  (reserved.find? fun entry => entry.1 == word).map Prod.snd

/-- No word is reserved twice, so each one in the list is found. -/
theorem ofLower?_eq_some_iff {word : Text} {k : Keyword} :
    ofLower? word = some k ↔ (word, k) ∈ reserved := by
  rw [ofLower?, Option.map_eq_some_iff]
  constructor
  · rintro ⟨⟨spelling, k'⟩, hfind, rfl⟩
    have hspelling := List.find?_some hfind
    obtain rfl : spelling = word := by simpa using hspelling
    exact List.mem_of_find?_eq_some hfind
  · have hfound : ∀ entry ∈ reserved,
        (reserved.find? fun other => other.1 == entry.1) = some entry := by decide +kernel
    exact fun hmem => ⟨(word, k), hfound _ hmem, rfl⟩

end Keyword

/-- What sort of token it is. -/
inductive TokenKind
  | keyword (keyword : Keyword)
  /-- An unquoted name. -/
  | identifier
  /-- A quoted text. -/
  | string
  /-- An unquoted numeral. -/
  | number
  /-- Any other unquoted run. -/
  | word
  | star | comma | leftParen | rightParen | semicolon
  | equal | notEqual | less | lessEqual | greater | greaterEqual
  /-- A character that starts no other token. -/
  | other
  deriving DecidableEq

/-- The name of a kind of token. -/
def TokenKind.name : TokenKind → Text
  | .keyword k => k.name
  | .identifier => "IDENTIFIER" | .string => "STRING" | .number => "NUMBER" | .word => "WORD"
  | .star => "STAR" | .comma => "COMMA" | .leftParen => "LPAREN" | .rightParen => "RPAREN"
  | .semicolon => "SEMICOLON" | .equal => "EQ" | .notEqual => "NEQ" | .less => "LT"
  | .lessEqual => "LTE" | .greater => "GT" | .greaterEqual => "GTE" | .other => "OTHER"

/-- A token; its position counts the characters before it. -/
structure Token where
  kind : TokenKind
  text : Text
  position : Nat
  deriving DecidableEq

namespace Token

/-- The tokens that can name a table or a column. -/
def isName (token : Token) : Bool :=
  match token.kind with
  | .identifier | .string | .word => true
  | _ => false

/-- The tokens that can be a literal. -/
def isValue (token : Token) : Bool :=
  token.isName || token.kind == .number

/-- A token that is a given keyword. -/
def isKeyword (keyword : Keyword) (token : Token) : Bool :=
  token.kind == .keyword keyword

/-- The texts of tokens with a blank between neighbours. -/
def joinTexts (tokens : List Token) : Text :=
  Text.joinWith " " (tokens.map Token.text)

end Token

end TableQuery
