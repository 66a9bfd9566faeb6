/-!
# Tables of code point ranges

A character class is a list of closed ranges in increasing order.

* `within`: membership, which stops at the first range that starts too late.
* `IncreasingFrom`: each range is nonempty and starts after the one before.
* `within_eq_true_iff`: on an increasing table this is membership of some range.
-/

namespace TableQuery.Text

/-- Whether a code point lies in one of the ranges of an increasing table. -/
def within : List (Nat × Nat) → Nat → Bool
  | [], _ => false
  | (first, last) :: rest, n =>
    if n < first then false else if n ≤ last then true else within rest n

/-- The ranges of a table start at some number or later, none is empty, and each one ends before the
next one starts. -/
def IncreasingFrom (least : Nat) : List (Nat × Nat) → Prop
  | [] => True
  | (first, last) :: rest => least ≤ first ∧ first ≤ last ∧ IncreasingFrom (last + 1) rest

instance decidableIncreasingFrom : ∀ (least : Nat) (table : List (Nat × Nat)),
    Decidable (IncreasingFrom least table)
  | _, [] => .isTrue trivial
  | least, (first, last) :: rest =>
    have := decidableIncreasingFrom (last + 1) rest
    inferInstanceAs (Decidable (least ≤ first ∧ first ≤ last ∧ IncreasingFrom (last + 1) rest))

theorem IncreasingFrom.le_of_mem {least : Nat} {table : List (Nat × Nat)} {range : Nat × Nat}
    (h : IncreasingFrom least table) (hmem : range ∈ table) : least ≤ range.1 := by
  induction table generalizing least with
  | nil => simp at hmem
  | cons head rest ih =>
    obtain ⟨hfirst, hrange, hrest⟩ := h
    rcases List.mem_cons.1 hmem with rfl | hlater
    · exact hfirst
    · have := ih hrest hlater
      omega

theorem within_eq_true_iff {least : Nat} {table : List (Nat × Nat)} (h : IncreasingFrom least table)
    (n : Nat) : within table n = true ↔ ∃ r ∈ table, r.1 ≤ n ∧ n ≤ r.2 := by
  induction table generalizing least with
  | nil => simp [within]
  | cons head rest ih =>
    obtain ⟨first, last⟩ := head
    obtain ⟨-, hrange, hrest⟩ := h
    -- no later range starts before this one ends
    have hlater : ∀ r ∈ rest, last < r.1 := fun r hr => hrest.le_of_mem hr
    simp only [within, List.mem_cons, or_and_right, exists_or, exists_eq_left]
    split
    · rename_i hbefore
      refine iff_of_false Bool.false_ne_true ?_
      rintro (⟨hfirst, -⟩ | ⟨r, hr, hlow, -⟩)
      · omega
      · have := hlater r hr
        omega
    · split
      · exact iff_of_true rfl (.inl (by omega))
      · rw [ih hrest]
        exact ⟨.inr, fun hor => hor.resolve_left (by omega)⟩

end TableQuery.Text
