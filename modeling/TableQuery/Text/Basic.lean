/-!
# Texts

A text is a list of code points. Nearly always these are characters, but halves of surrogate
pairs can stand alone in a text and are kept as they are.

* `Half`, `Point`: a lone half of a surrogate pair, and a code point.
* `Point.value`, `Point.ofNat`: the number of a code point, and back.
* `Text`: a list of code points.
* `Text.ofString`, `Text.toString`: the text of a string, and the nearest string to a text.
* `Text.joinWith`: texts with a separator between them.
* `Point.ofNat_value`, `Text.toString_ofString`: nothing is lost on these ways.
-/

namespace TableQuery

/-- Half of a surrogate pair: a code point that is no character. -/
structure Half where
  value : Nat
  isHalf : 0xD800 ≤ value ∧ value < 0xE000
  deriving DecidableEq

/-- A code point. -/
inductive Point
  | char (c : Char)
  | half (half : Half)
  deriving DecidableEq

instance : Coe Char Point :=
  ⟨Point.char⟩

namespace Point

/-- The number of a code point. -/
def value : Point → Nat
  | .char c => c.toNat
  | .half h => h.value

/-- The code point with a number. -/
def ofNat (n : Nat) : Point :=
  if h : 0xD800 ≤ n ∧ n < 0xE000 then .half ⟨n, h⟩ else .char (Char.ofNat n)

theorem ofNat_value (p : Point) : ofNat p.value = p := by
  cases p with
  | char c =>
    have hc : c.toNat < 0xD800 ∨ 0xDFFF < c.toNat ∧ c.toNat < 0x110000 := c.valid
    have hnot : ¬(0xD800 ≤ c.toNat ∧ c.toNat < 0xE000) := by omega
    simp [ofNat, value, hnot]
  | half h => simp [ofNat, value, h.isHalf]

/-- A half of a surrogate pair. -/
def isHalf : Point → Bool
  | .char _ => false
  | .half _ => true

/-- The character that is shown for a code point; a lone half is replaced. -/
def shown : Point → Char
  | .char c => c
  | .half _ => '\uFFFD'

end Point

/-- A list of code points. -/
abbrev Text := List Point

namespace Text

/-- The text of a string. -/
def ofString (s : String) : Text :=
  s.toList.map Point.char

instance : Coe String Text :=
  ⟨ofString⟩

/-- A text as a string, with something in place of each lone half. -/
def toString (t : Text) : String :=
  String.ofList (t.map Point.shown)

/-- Texts with a separator between neighbours. -/
def joinWith (separator : Text) (texts : List Text) : Text :=
  separator.intercalate texts

theorem joinWith_cons_cons (separator text next : Text) (texts : List Text) :
    joinWith separator (text :: next :: texts) =
      text ++ separator ++ joinWith separator (next :: texts) :=
  List.intercalate_cons_cons

theorem toString_ofString (s : String) : toString (ofString s) = s := by
  simp [toString, ofString, Function.comp_def, Point.shown]

end Text

end TableQuery
