import TableQuery.Number.Rounding

/-!
# Doubles

* `Extended`: an exact number, in units, or one of the two infinities.
* `Double`: a binary64 number, as a sign and a magnitude in units.
* `Double.extended?`: the exact value of a double; a NaN has none.
* `Double.ofQuotient`: the double nearest to a quotient.
* `Double.ofInt?`: the double nearest to an integer, unless the integer is too large.
-/

namespace TableQuery.Number

attribute [local instance] natPow

/-- A multiple of the unit, or an infinity. -/
inductive Extended
  | minusInfinity
  | finite (units : Int)
  | plusInfinity
  deriving DecidableEq

/-- The strict order of the extended line. -/
def Extended.lt : Extended → Extended → Bool
  | .minusInfinity, .minusInfinity => false
  | .minusInfinity, _ => true
  | .finite a, .finite b => decide (a < b)
  | .finite _, .plusInfinity => true
  | _, _ => false

/-- The place of an integer on the extended line. -/
def Extended.ofInt (n : Int) : Extended :=
  .finite (n * one)

/-- A binary64 number. -/
inductive Double
  | nan
  | infinite (negative : Bool)
  | finite (negative : Bool) (units : Nat) (fits : Fits units)
  deriving DecidableEq

namespace Double

/-- A magnitude with a sign. -/
def signed (negative : Bool) (units : Nat) : Int :=
  if negative then -(units : Int) else units

/-- The exact value of a double; both zeros have the value zero. -/
def extended? : Double → Option Extended
  | .nan => none
  | .infinite negative => some (if negative then .minusInfinity else .plusInfinity)
  | .finite negative units _ => some (.finite (signed negative units))

/-- The double nearest to a quotient of units; too large a quotient becomes infinite. -/
def ofQuotient (negative : Bool) (num den : Nat) : Double :=
  if h : nearest num den < tooLarge then .finite negative (nearest num den) (fits_nearest h)
  else .infinite negative

/-- A double that is neither an infinity nor a NaN. -/
def finite? : Double → Option Double
  | .finite negative units fits => some (.finite negative units fits)
  | _ => none

/-- The double nearest to an integer, if that is finite. -/
def ofInt? (n : Int) : Option Double :=
  (ofQuotient (decide (n < 0)) (n.natAbs * one) 1).finite?

/-- The double nearest to `digits * 10 ^ exponent`, with a sign.

Exponents so far out that the result is an infinity or a zero are settled without raising ten
to them. -/
def ofDecimal (negative : Bool) (digits : Nat) (exponent : Int) : Double :=
  match exponent with
  | .ofNat up =>
    if digits = 0 then ofQuotient negative 0 1
    else if 400 ≤ up then .infinite negative
    else ofQuotient negative (digits * 10 ^ up * one) 1
  | .negSucc below =>
    let down := below + 1
    if digits.log2 + 1081 < 3 * down then ofQuotient negative 0 1
    else ofQuotient negative (digits * one) (10 ^ down)

/-- The zero without a sign. -/
def zero : Double :=
  .finite false 0 fits_zero

/-- The number one. -/
def unit : Double :=
  .finite false one fits_one

/-- The integer a double is equal to, if there is one. -/
def toInt? : Double → Option Int
  | .finite negative units _ =>
    if units % one = 0 then some (signed negative (units / one)) else none
  | _ => none

end Double

end TableQuery.Number
