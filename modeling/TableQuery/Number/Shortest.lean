import TableQuery.Number.Double
import TableQuery.Text.Basic

/-!
# The shortest decimal of a double

A magnitude of `u` units is `u * 5 ^ 1074 / 10 ^ 1074`, so its decimal expansion is finite: the
digits of `u * 5 ^ 1074` with the point 1074 places from their end.

* `readsBack`: whether a decimal rounds to a given magnitude.
* `shortest`: the decimal with the fewest digits that reads back; of two, the nearer.
* `readsBack_shortest`: it does read back, provided that the exact expansion does.
* `Double.text`: the decimal written out.
-/

namespace TableQuery.Number

attribute [local instance] natPow

/-- Whether `digits` followed by `dropped` zeros, with the point moved by `places`, rounds to a
magnitude. -/
def readsBack (units digits dropped : Nat) : Bool :=
  nearest (digits * 10 ^ dropped) (5 ^ places) == units

/-- The better of the two neighbours of an expansion on a grid, if one of them reads back: the
nearer, and at equal distance the even one. -/
def neighbour? (units expansion dropped : Nat) : Option Nat :=
  let below := expansion / 10 ^ dropped
  let above := below + 1
  let twice := 2 * (expansion % 10 ^ dropped)
  if readsBack units below dropped then
    if readsBack units above dropped &&
        (10 ^ dropped < twice || (twice == 10 ^ dropped && below % 2 == 1)) then some above
    else some below
  else if readsBack units above dropped then some above
  else none

/-- Try ever finer grids, down to the exact expansion. -/
def shortestFrom (units expansion : Nat) : (dropped : Nat) → Nat × Nat
  | 0 => (expansion, 0)
  | dropped + 1 =>
    match neighbour? units expansion (dropped + 1) with
    | some digits => (digits, dropped + 1)
    | none => shortestFrom units expansion dropped

/-- At least as many zeros as follow the first digit of a number. A power of ten below it has
fewer zeros than `0.30103` times the number of its binary digits. -/
def coarsestGrid (n : Nat) : Nat :=
  n.log2 * 30103 / 100000 + 1

/-- The fewest digits that read back as a magnitude, and how many zeros follow them when the
point is `places` from the end. -/
def shortest (units : Nat) : Nat × Nat :=
  let expansion := units * 5 ^ places
  shortestFrom units expansion (coarsestGrid expansion)

theorem readsBack_of_neighbour? {units expansion dropped digits : Nat}
    (h : neighbour? units expansion dropped = some digits) :
    readsBack units digits dropped = true := by
  simp only [neighbour?] at h
  split at h
  · split at h
    · simp_all
    · simp_all
  · split at h <;> simp_all

theorem readsBack_shortestFrom {units expansion dropped : Nat}
    (h : readsBack units expansion 0 = true) :
    readsBack units (shortestFrom units expansion dropped).1
      (shortestFrom units expansion dropped).2 = true := by
  induction dropped with
  | zero => simpa [shortestFrom] using h
  | succ dropped ih =>
    simp only [shortestFrom]
    split
    · rename_i digits hd
      exact readsBack_of_neighbour? hd
    · exact ih

theorem readsBack_shortest {units : Nat}
    (h : readsBack units (units * 5 ^ places) 0 = true) :
    readsBack units (shortest units).1 (shortest units).2 = true := by
  rw [shortest]
  exact readsBack_shortestFrom h

/-! ### Layout -/

/-- Remove the zeros at the end of a digit string. -/
def dropTrailingZeros (digits : List Char) : List Char :=
  (digits.reverse.dropWhile (· == '0')).reverse

/-- The exponent part: a sign and at least two digits. -/
def exponentText (exponent : Int) : List Char :=
  let digits := Nat.toDigits 10 exponent.natAbs
  'e' :: (if exponent < 0 then '-' else '+') ::
    (if digits.length < 2 then '0' :: digits else digits)

/-- Lay out digits whose point stands after the first `point` of them. Numbers from `0.0001`
up to sixteen digits before the point are positional and keep one digit after the point. -/
def layout (digits : List Char) (point : Int) : List Char :=
  if -4 < point ∧ point ≤ 16 then
    if point ≤ 0 then '0' :: '.' :: (List.replicate point.natAbs '0' ++ digits)
    else
      let before := point.natAbs
      let whole := digits.take before ++ List.replicate (before - digits.length) '0'
      let fraction := digits.drop before
      whole ++ '.' :: (if fraction.isEmpty then ['0'] else fraction)
  else
    let mantissa := match digits with
      | first :: second :: rest => first :: '.' :: second :: rest
      | _ => digits
    mantissa ++ exponentText (point - 1)

/-- The text of a magnitude. -/
def magnitudeText (units : Nat) : List Char :=
  if units = 0 then ['0', '.', '0']
  else
    let (digits, dropped) := shortest units
    let shown := Nat.toDigits 10 digits
    layout (dropTrailingZeros shown) (shown.length + dropped - places : Int)

/-- The shortest text that reads back as a double. -/
def Double.text : Double → Text
  | .nan => "nan"
  | .infinite negative => if negative then "-inf" else "inf"
  | .finite negative units _ =>
    (if negative then "-" else "") ++ (magnitudeText units).map Point.char

end TableQuery.Number
