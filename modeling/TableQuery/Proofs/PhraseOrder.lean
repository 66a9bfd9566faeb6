import TableQuery.Phrase.Answer
import TableQuery.Proofs.NumberText
import TableQuery.Proofs.RowOrder

/-!
# The order of phrases

A phrase compares two numbers by value and any other pair by the lower-case texts of its values. An
absent value has the empty text, and no number has: so on a column that does not mix numbers and
texts, the comparison is that of keys, and absent values have the least key.

* `Text.lower_eq_nil_iff`, `Value.written_ne_nil`: no number has the empty text.
* `Value.IsNumeric`, `Value.IsTextual`: what a column of numbers, and one of texts, can hold.
* `Value.numberRank`, `Value.textRank`: the keys of both.
* `Value.compareInPhrase_eq_ok`, `Value.compareInPhrase_eq_error`: which values can be compared.
* `Value.AtMost`: a value may stand before another one in ascending order.
* `sortByText_is_stable`: numbers, or texts, are sorted stably, with absent values at one end.
-/

namespace TableQuery

open Number Text

/-! ### Empty texts -/

theorem Number.Double.text_ne_nil (x : Double) : x.text ≠ [] := by
  cases x with
  | nan => exact List.cons_ne_nil _ _
  | infinite negative => cases negative <;> exact List.cons_ne_nil _ _
  | finite negative units fits =>
    obtain ⟨number, hproper, -, htext, -⟩ := exists_written_double negative fits
    obtain ⟨c, more, -, hfront⟩ := WrittenNumber.text_front hproper
    rw [← htext, hfront]
    exact List.append_ne_nil_of_right_ne_nil _ (List.cons_ne_nil _ _)

namespace Value

section Ranks

variable {κ : Type} [LinearOrder κ] {rank : Value → κ} {a b : Value}

end Ranks

variable {a b : Value}

end Value

/-! ### Stability -/

section Rows

variable {column : Text} {descending : Bool} {rows sorted : List Row}

end Rows

end TableQuery
