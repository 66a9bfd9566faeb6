import TableQuery.Query.Token
import TableQuery.Text.Case
import TableQuery.Text.Word
import TableQuery.Value.Basic

/-!
# Splitting a query into tokens

* `stringBody?`: the rest of a quoted text, up to its closing quote.
* `inRun`: the code points of an unquoted run.
* `runKind`: what an unquoted run is.
* `lexeme`: the token, or the stretch to skip, at the front of a text.
* `tokenize`: the tokens of a text. No text is refused.
-/

namespace TableQuery

open Text

/-- Read a quoted text after its opening quote: its content and the number of code points up to
and including the closing quote. A backslash keeps the next code point, which must not be a line
feed; there has to be a closing quote. -/
def stringBody? (mark : Point) : Text → Option (Text × Nat)
  | [] => none
  | p :: rest =>
    if p = mark then some ([], 1)
    else if p = '\\' then
      match rest with
      | [] => none
      | kept :: rest =>
        if kept = '\n' then none
        else (stringBody? mark rest).map fun (text, length) => (kept :: text, length + 2)
    else (stringBody? mark rest).map fun (text, length) => (p :: text, length + 1)

/-- The quotes and the punctuation, which end an unquoted run. -/
def runEnds : Text := ",()\"';=<>!*"

/-- A code point of an unquoted run: neither blank, nor quote, nor punctuation. -/
def inRun (p : Point) : Bool :=
  !isBlank p && !runEnds.contains p

/-- An unquoted run is a keyword, a name, a numeral, or a bare word. -/
def runKind (run : Text) : TokenKind :=
  if isIdentifier run then
    match Keyword.ofLower? (lower run) with
    | some keyword => .keyword keyword
    | none => .identifier
  else if isNumeral run then .number
  else .word

/-- What stands at the front of a text. -/
inductive Lexeme
  | skipped (length : Nat)
  | token (kind : TokenKind) (text : Text) (length : Nat)

/-- How many code points a lexeme takes. -/
def Lexeme.length : Lexeme → Nat
  | .skipped length => length
  | .token _ _ length => length

/-- A token that stands for itself. -/
def Lexeme.plain (kind : TokenKind) (text : Text) : Lexeme :=
  .token kind text text.length

/-- The punctuation at the front, two code points before one. -/
def punctuation (p : Point) (rest : Text) : Lexeme :=
  match p, rest with
  | .char '!', .char '=' :: _ => .plain .notEqual "!="
  | .char '<', .char '=' :: _ => .plain .lessEqual "<="
  | .char '>', .char '=' :: _ => .plain .greaterEqual ">="
  | .char '<', _ => .plain .less "<"
  | .char '>', _ => .plain .greater ">"
  | .char '=', _ => .plain .equal "="
  | .char '*', _ => .plain .star "*"
  | .char ',', _ => .plain .comma ","
  | .char '(', _ => .plain .leftParen "("
  | .char ')', _ => .plain .rightParen ")"
  | .char ';', _ => .plain .semicolon ";"
  | p, _ => .plain .other [p]

/-- What stands at the front: a blank, a line feed, a quoted text, a comment up to the end of
the line, an unquoted run, or punctuation. A quote that is not closed stands alone. -/
def lexeme (p : Point) (rest : Text) : Lexeme :=
  if p = ' ' || p = '\t' || p = '\r' || p = '\n' then .skipped 1
  else if p = '"' || p = '\'' then
    match stringBody? p rest with
    | some (text, length) => .token .string text (length + 1)
    | none => .plain .other [p]
  else if p = '-' && rest.head? = some (.char '-') then
    .skipped (1 + (rest.takeWhile fun p => p != .char '\n').length)
  else if inRun p then
    let run := p :: rest.takeWhile inRun
    .plain (runKind run) run
  else punctuation p rest

/-- The tokens of a text that starts at a position, after passing over the code points of the
last lexeme that are still to come. -/
def tokensFrom (position : Nat) : (pending : Nat) → Text → List Token
  | _, [] => []
  | pending + 1, _ :: rest => tokensFrom (position + 1) pending rest
  | 0, p :: rest =>
    match lexeme p rest with
    | .skipped length => tokensFrom (position + 1) (length - 1) rest
    | .token kind text length =>
      ⟨kind, text, position⟩ :: tokensFrom (position + 1) (length - 1) rest

/-- The tokens of a text. -/
def tokenize (text : Text) : List Token :=
  tokensFrom 0 0 text

end TableQuery
