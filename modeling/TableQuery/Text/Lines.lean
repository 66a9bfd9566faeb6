import TableQuery.Text.Basic

/-!
# Lines

* `isLineBreak`: the characters that end a line.
* `splitLines`: the lines of a text; a break at the very end starts no further line.
* `unifyBreaks`: every return, alone or before a line feed, as one line feed.
* `splitOn`: the parts between the occurrences of one character.
-/

namespace TableQuery.Text

/-- Line feed, return, the vertical tab and form feed, the file, group and record separators,
the next-line control and the line and paragraph separators. -/
def isLineBreak (p : Point) : Bool :=
  let n := p.value
  (0xA ≤ n && n ≤ 0xD) || (0x1C ≤ n && n ≤ 0x1E) || n == 0x85 || n == 0x2028 || n == 0x2029

/-- The lines of a text, without their breaks. -/
def splitLines : Text → List Text
  | [] => []
  | .char '\r' :: .char '\n' :: rest => [] :: splitLines rest
  | p :: rest =>
    if isLineBreak p then [] :: splitLines rest
    else match splitLines rest with
      | [] => [[p]]
      | line :: lines => (p :: line) :: lines

/-- Write every return, and every return with its line feed, as one line feed. -/
def unifyBreaks : Text → Text
  | [] => []
  | .char '\r' :: .char '\n' :: rest => .char '\n' :: unifyBreaks rest
  | p :: rest => (if p = '\r' then .char '\n' else p) :: unifyBreaks rest

/-- The parts of a text between the occurrences of a separator. -/
def splitOn (separator : Point) : Text → List Text
  | [] => [[]]
  | p :: rest =>
    if p = separator then [] :: splitOn separator rest
    else match splitOn separator rest with
      | [] => [[p]]
      | part :: parts => (p :: part) :: parts

theorem splitOn_ne_nil (separator : Point) (t : Text) : splitOn separator t ≠ [] := by
  cases t with
  | nil => simp [splitOn]
  | cons p rest =>
    simp only [splitOn]
    split
    · simp
    · split <;> simp

end TableQuery.Text
