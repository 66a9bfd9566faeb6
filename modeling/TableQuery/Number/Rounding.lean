/-!
# Rounding to binary64

A magnitude is counted in units of `2 ^ -1074`, the distance between the smallest doubles.

* `divideEven`: the integer nearest to a quotient, a half going to the even neighbour.
* `Fits`: the magnitudes that a double can hold.
* `nearest`: a quotient rounded to 53 significant bits.
* `fits_nearest`: the result is the magnitude of a double whenever it is not too large.
-/

namespace TableQuery.Number

/-- Powers of natural numbers, the same in every module whatever other instances it knows. -/
@[reducible] def natPow : Pow Nat Nat :=
  ⟨Nat.pow⟩

-- an exponent that is a numeral is written with its type, else another instance can be found
attribute [local instance] natPow

/-- The binary places of a unit, which are also its decimal places. -/
@[irreducible] def places : Nat := 1074

/-- The number of units in one. -/
def one : Nat := 2 ^ places

/-- The binary place of the least magnitude beyond every double. -/
@[irreducible] def topPlace : Nat := 2098

/-- The least magnitude, in units, that is beyond every double. -/
def tooLarge : Nat := 2 ^ topPlace

/-- At most 53 significant bits, and not too large. -/
def Fits (units : Nat) : Prop :=
  (∃ significand shift : Nat, significand ≤ 2 ^ (53 : Nat) ∧ units = significand * 2 ^ shift) ∧
    units < tooLarge

/-- The integer nearest to a quotient; a half goes to the even neighbour. -/
def divideEven (num den : Nat) : Nat :=
  let quotient := num / den
  let twice := 2 * (num % den)
  if twice < den then quotient
  else if den < twice then quotient + 1
  else if quotient % 2 = 0 then quotient else quotient + 1

/-- How many low bits a double has to drop from a whole number of units. -/
def droppedBits (units : Nat) : Nat :=
  (units / 2 ^ (52 : Nat)).log2

/-- A quotient of units, rounded to the nearest multiple that has at most 53 bits. -/
def nearest (num den : Nat) : Nat :=
  divideEven num (den * 2 ^ droppedBits (num / den)) * 2 ^ droppedBits (num / den)

theorem tooLarge_pos : 0 < tooLarge :=
  Nat.two_pow_pos topPlace

theorem one_lt_tooLarge : one < tooLarge :=
  Nat.pow_lt_pow_of_lt (show 1 < 2 by decide)
    (by unfold places topPlace; decide)

theorem fits_zero : Fits 0 :=
  ⟨⟨0, 0, by decide, (Nat.zero_mul _).symm⟩, tooLarge_pos⟩

theorem fits_one : Fits one :=
  ⟨⟨1, places, by decide, (Nat.one_mul (2 ^ places)).symm⟩, one_lt_tooLarge⟩

theorem divideEven_le (num den : Nat) : divideEven num den ≤ num / den + 1 := by
  simp only [divideEven]
  split
  · omega
  · split
    · omega
    · split <;> omega

theorem div_lt_of_droppedBits (units : Nat) : units / 2 ^ droppedBits units < 2 ^ (53 : Nat) := by
  have hlog : units / 2 ^ (52 : Nat) < 2 ^ (droppedBits units + 1) := Nat.lt_log2_self
  rw [Nat.div_lt_iff_lt_mul (by decide)] at hlog
  rw [Nat.div_lt_iff_lt_mul (Nat.two_pow_pos _)]
  rw [Nat.pow_succ] at hlog
  omega

theorem divideEven_le_of_droppedBits (num den : Nat) :
    divideEven num (den * 2 ^ droppedBits (num / den)) ≤ 2 ^ (53 : Nat) := by
  refine Nat.le_trans (divideEven_le _ _) ?_
  rw [← Nat.div_div_eq_div_mul]
  exact div_lt_of_droppedBits _

theorem fits_nearest {num den : Nat} (h : nearest num den < tooLarge) : Fits (nearest num den) :=
  ⟨⟨divideEven num (den * 2 ^ droppedBits (num / den)), droppedBits (num / den),
    divideEven_le_of_droppedBits num den, rfl⟩, h⟩

end TableQuery.Number
