import TableQuery.Text.Blank
import TableQuery.Text.Lines

/-!
# Scripts

* `scriptStatements`: the statements of a script, which end at semicolons outside quotes.
* `scriptPhrases`: the phrases of a script, which end at semicolons and at line ends.

Lines that start with two dashes are comments.
-/

namespace TableQuery

open Text

/-- Where in a statement a code point stands. -/
inductive QuoteState
  | outside
  | inside (mark : Point)
  | escaped (mark : Point)
  deriving DecidableEq

/-- The state after a code point. -/
def QuoteState.next (state : QuoteState) (p : Point) : QuoteState :=
  match state with
  | .outside => if p = '"' || p = '\'' then .inside p else .outside
  | .inside mark =>
    if p = '\\' then .escaped mark else if p = mark then .outside else .inside mark
  | .escaped mark => .inside mark

/-- The parts of a text between the semicolons that stand outside quotes. -/
def statementParts (state : QuoteState) : Text → List Text
  | [] => [[]]
  | p :: rest =>
    if p = ';' ∧ state = .outside then [] :: statementParts .outside rest
    else
      match statementParts (state.next p) rest with
      | [] => [[p]]
      | part :: parts => (p :: part) :: parts

/-- A line that is a comment. -/
def isCommentLine (line : Text) : Bool :=
  (ofString "--").isPrefixOf (trim line)

/-- The lines of a text that are no comments. -/
def scriptLines (script : Text) : List Text :=
  (splitLines script).filter fun line => !isCommentLine line

/-- Parts without the blanks around them and without those that are blank. -/
def nonblank (parts : List Text) : List Text :=
  (parts.map trim).filter fun part => !part.isEmpty

/-- The statements of a script. -/
def scriptStatements (script : Text) : List Text :=
  nonblank (statementParts .outside (joinWith "\n" (scriptLines script)))

/-- The phrases of a script. -/
def scriptPhrases (script : Text) : List Text :=
  (scriptLines script).flatMap fun line => nonblank (splitOn ';' line)

end TableQuery
