import TableQuery.Number.Double
import TableQuery.Text.Digit

/-!
# Decimal numerals

A numeral is an optional sign, digits with an optional fraction or a fraction alone, and an
optional exponent. The digits may be those of any script.

* `Numeral`: the parts of a numeral.
* `Numeral.ofText?`: the parts of a text that is a numeral.
* `Numeral.toInt?`: the integer that a numeral without point and exponent denotes.
* `Numeral.toDouble`: the double nearest to what a numeral denotes.
* `integerText`: the numeral of an integer, with a sign only when it is negative.
-/

namespace TableQuery.Number

open TableQuery.Text (digitValue?)

/-- The parts of a decimal numeral. -/
structure Numeral where
  negative : Bool
  whole : List Nat
  /-- The digits after the point, if there is a point. -/
  fraction : Option (List Nat)
  exponent : Option Int
  deriving DecidableEq

/-- The number that a list of digits spells, highest place first. -/
def positional (digits : List Nat) : Nat :=
  digits.foldl (fun n d => 10 * n + d) 0

/-- Split off the digits at the front. -/
def takeDigits : Text → List Nat × Text
  | [] => ([], [])
  | p :: rest =>
    match digitValue? p with
    | some d => (d :: (takeDigits rest).1, (takeDigits rest).2)
    | none => ([], p :: rest)

/-- Split off a sign at the front; the first component tells whether it is a minus. -/
def takeSign : Text → Bool × Text
  | .char '+' :: rest => (false, rest)
  | .char '-' :: rest => (true, rest)
  | t => (false, t)

/-- Split off a point with the digits after it. -/
def takeFraction : Text → Option (List Nat) × Text
  | .char '.' :: rest => (some (takeDigits rest).1, (takeDigits rest).2)
  | t => (none, t)

/-- The longest text of an integer that is read as an integer, in digits. -/
def maxIntegerDigits : Nat := 4300

namespace Numeral

/-- Read what follows the digits: nothing, or an exponent. -/
def exponentOf? : Text → Option (Option Int)
  | [] => some none
  | p :: rest =>
    if p = 'e' ∨ p = 'E' then
      let (negative, rest) := takeSign rest
      let (digits, rest) := takeDigits rest
      if digits.isEmpty || !rest.isEmpty then none
      else some (some (if negative then -(positional digits : Int) else positional digits))
    else none

/-- Read a text that is, as a whole, a numeral. -/
def ofText? (t : Text) : Option Numeral :=
  let (negative, t) := takeSign t
  let (whole, t) := takeDigits t
  let (fraction, t) := takeFraction t
  if whole.isEmpty && (fraction.getD []).isEmpty then none
  else (exponentOf? t).map fun exponent => ⟨negative, whole, fraction, exponent⟩

/-- The integer denoted by a sign and digits, if there are not too many digits. -/
def toInt? (n : Numeral) : Option Int :=
  if n.fraction.isNone && n.exponent.isNone && n.whole.length ≤ maxIntegerDigits then
    some (if n.negative then -(positional n.whole : Int) else positional n.whole)
  else none

/-- The double nearest to the denoted number. -/
def toDouble (n : Numeral) : Double :=
  let fraction := n.fraction.getD []
  Double.ofDecimal n.negative (positional (n.whole ++ fraction))
    (n.exponent.getD 0 - fraction.length)

end Numeral

/-- The numeral of a natural number in the digits from `0` to `9`. -/
def naturalText (n : Nat) : Text :=
  (Nat.toDigits 10 n).map Point.char

/-- The numeral of an integer in the digits from `0` to `9`. -/
def integerText (n : Int) : Text :=
  (if n < 0 then "-" else "") ++ naturalText n.natAbs

end TableQuery.Number
