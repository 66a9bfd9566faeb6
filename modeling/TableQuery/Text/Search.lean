import TableQuery.Text.Basic

/-!
# Occurrences

* `occursIn`: whether one text stands, contiguously, inside another.
* `occursIn_iff`: an occurrence splits the text into what is before it and what is after.
* `refusedHalves?`: the halves of surrogate pairs at which an encoding fails.
-/

namespace TableQuery.Text

/-- Whether the first text stands contiguously in the second, letter case included. -/
def occursIn (needle : Text) : Text → Bool
  | [] => needle.isEmpty
  | p :: rest => needle.isPrefixOf (p :: rest) || occursIn needle rest

theorem occursIn_iff (needle text : Text) : occursIn needle text = true ↔ needle <:+: text := by
  induction text with
  | nil => simp [occursIn]
  | cons p rest ih => simp [occursIn, ih, List.infix_cons_iff]

/-- The first code point that an encoding refuses with the halves directly after it, and its
position. -/
def refusedHalves? (refuses : Point → Bool) (position : Nat) : Text → Option (Text × Nat)
  | [] => none
  | p :: rest =>
    if refuses p then some (p :: rest.takeWhile Point.isHalf, position)
    else refusedHalves? refuses (position + 1) rest

end TableQuery.Text
