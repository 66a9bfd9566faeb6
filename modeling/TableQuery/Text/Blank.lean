import TableQuery.Text.Basic

/-!
# Blanks

* `isBlank`: the Unicode white space characters and the four information separators.
* `trim`: a text without the blanks at its two ends.
-/

namespace TableQuery.Text

/-- White space: the controls from tab to carriage return, the information separators, the
space, the next-line control and the space, line and paragraph separators. -/
def isBlank (p : Point) : Bool :=
  let n := p.value
  (9 ≤ n && n ≤ 13) || (0x1C ≤ n && n ≤ 0x20) || n == 0x85 || n == 0xA0 || n == 0x1680 ||
    (0x2000 ≤ n && n ≤ 0x200A) || n == 0x2028 || n == 0x2029 || n == 0x202F || n == 0x205F ||
    n == 0x3000

/-- Remove the leading and the trailing blanks. -/
def trim (t : Text) : Text :=
  ((t.dropWhile isBlank).reverse.dropWhile isBlank).reverse

end TableQuery.Text
