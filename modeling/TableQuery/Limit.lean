/-!
# Limits

* `takeLimit`: the first elements of a list, counted from the end if the limit is negative.
-/

namespace TableQuery

/-- The first elements of a list, as many as a limit says. A negative limit says how many to
leave out at the end. -/
def takeLimit {α : Type} (limit : Int) (xs : List α) : List α :=
  if limit < 0 then xs.take (xs.length - limit.natAbs) else xs.take limit.natAbs

theorem takeLimit_ofNat {α : Type} (n : Nat) (xs : List α) : takeLimit n xs = xs.take n := by
  have h : ¬(n : Int) < 0 := by omega
  simp [takeLimit, h]

end TableQuery
