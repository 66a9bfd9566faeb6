import TableQuery.Text.Hex
import TableQuery.Text.Printable

/-!
# Quoted text

Texts in log lines stand between quotes, with what cannot be shown escaped.

* `quoteMark`: single quotes, unless the text holds a single quote and no double quote.
* `quoted`: the text between its quotes.
-/

namespace TableQuery.Text

/-- The quote that a text is put between. -/
def quoteMark (t : Text) : Point :=
  if t.contains (.char '\'') && !t.contains (.char '"') then '"' else '\''

/-- One code point of a quoted text. -/
def quotedPoint (mark p : Point) : Text :=
  if p = mark || p = '\\' then ['\\', p]
  else if p = '\t' then "\\t"
  else if p = '\n' then "\\n"
  else if p = '\r' then "\\r"
  else if isPrintable p then [p]
  else if p.value < 0x100 then "\\x" ++ hex 2 p.value
  else if p.value < 0x10000 then "\\u" ++ hex 4 p.value
  else "\\U" ++ hex 8 p.value

/-- A text between quotes. -/
def quoted (t : Text) : Text :=
  let mark := quoteMark t
  mark :: t.flatMap (quotedPoint mark) ++ [mark]

end TableQuery.Text
