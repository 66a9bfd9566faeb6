import TableQuery.Condition
import TableQuery.Proofs.JsonDocuments

/-!
# Overlong integers

An integer of too many digits is never written as a text, so whatever comes to its text ends in a
fault. A comparison comes to it just if it compares texts.

* `Value.isOverlong_eq_false_iff`: what is not overlong can be stored.
* `Value.format_eq_ok`, `Value.format_eq_error`: which values have a text.
* `Value.exists_looselyEqual`, `Value.exists_looselyEqual_int`, `Value.looselyEqual_text_eq_error`:
  which values can be compared for equality.
* `Row.IsShort`: a row without overlong integers.
-/

namespace TableQuery

open Number Text

namespace Value

variable {value field literal : Value}

theorem isOverlong_eq_false_iff : value.isOverlong = false ↔ value.IsStorable := by
  cases value with
  | int n =>
    rw [isOverlong, decide_eq_false_iff_not, Nat.not_lt, naturalText, List.length_map]
    exact Nat.length_toDigits_le_iff (by decide) (by decide)
  | null | bool _ | float _ | text _ => exact iff_of_true rfl trivial

theorem format_eq_ok {t : Text} : value.format = .ok t ↔ value.IsStorable ∧ value.written = t := by
  rw [← isOverlong_eq_false_iff, format]
  cases value.isOverlong <;> simp

theorem format_of_isStorable (h : value.IsStorable) : value.format = .ok value.written :=
  format_eq_ok.2 ⟨h, rfl⟩

theorem format_eq_error {f : Fault} :
    value.format = .error f ↔ f = .integerOverlong ∧ ¬value.IsStorable := by
  rw [← isOverlong_eq_false_iff, format]
  cases value.isOverlong <;> simp [eq_comm]

theorem not_isStorable_iff :
    ¬value.IsStorable ↔ ∃ n, value = .int n ∧ ¬(Value.int n).IsStorable := by
  cases value with
  | int n => simp
  | null | bool _ | float _ | text _ => simp [IsStorable]

/-! ### Comparisons -/

/-- Values that are not overlong can be compared for equality. -/
theorem exists_looselyEqual (hfield : field.IsStorable) (hliteral : literal.IsStorable) :
    ∃ equal, field.looselyEqual literal = .ok equal := by
  have htexts : ∃ equal, (do return (← field.format) == (← literal.format)) = .ok equal :=
    ⟨_, by rw [format_of_isStorable hfield, format_of_isStorable hliteral]; rfl⟩
  unfold looselyEqual
  -- only the last branch comes to the texts
  repeat' split
  all_goals first | exact ⟨_, rfl⟩ | exact htexts

/-- An overlong integer can be compared for equality with a number. -/
theorem exists_looselyEqual_int {n : Int} (h : literal.isNumber = true) :
    ∃ equal, (Value.int n).looselyEqual literal = .ok equal := by
  cases literal with
  | int _ | float _ => exact ⟨_, rfl⟩
  | null | bool _ | text _ => cases h

/-- An overlong integer cannot be compared with a text that is no numeral. -/
theorem looselyEqual_text_eq_error {n : Int} {t : Text} (hn : ¬(Value.int n).IsStorable)
    (ht : isNumeral t = false) :
    (Value.int n).looselyEqual (.text t) = .error .integerOverlong := by
  have hnumeral : numeral? t = none := by simpa [isNumeral] using ht
  have htext : looselyEqual (.int n) (.text t) =
      do return (← (Value.int n).format) == (← (Value.text t).format) := by
    simp [looselyEqual, isNumber, numericText?, hnumeral]
  rw [htext, format_eq_error.2 ⟨rfl, hn⟩]
  rfl

end Value

/-! ### Rows -/

/-- A row without overlong integers. -/
def Row.IsShort (row : Row) : Prop :=
  ∀ column, (row.get column).IsStorable

theorem Row.isShort_of_fields {row : Row}
    (h : ∀ field ∈ row.values.fields, field.2.IsStorable) : row.IsShort := by
  intro column
  unfold Row.get
  cases hvalue : row.values.get? column with
  | none => trivial
  | some value => exact h (column, value) (Fields.mem_of_lookup hvalue)

end TableQuery
