/-!
# Computations that compare

A computation on elements that it can only compare with each other is a tree of questions. So what
it does can be told apart from how a comparison replies, and from whether it fails.

* `Asking`: such a computation.
* `Asking.isLess`: the computation that asks one question and gives the reply to it.
* `Asking.run`: the result for a comparison that can fail.
* `Asking.Ensures`: what a computation asks, and what it gives for admissible replies.
* `Asking.Ensures.run_cases`, `Asking.Ensures.run_congr`: what this says about a comparison, and
  about two that agree.
-/

namespace TableQuery

/-- A computation that ends with a result, or asks whether one element is less than another and
goes on from the reply. -/
inductive Asking (α β : Type)
  | answer (b : β)
  | ask (x y : α) (next : Bool → Asking α β)

namespace Asking

variable {α β γ ε : Type}

/-- Go on with the result of a computation. -/
def bind : Asking α β → (β → Asking α γ) → Asking α γ
  | .answer b, f => f b
  | .ask x y next, f => .ask x y fun less => (next less).bind f

instance : Monad (Asking α) where
  pure := .answer
  bind := .bind

/-- Ask whether one element is less than another. -/
def isLess (x y : α) : Asking α Bool :=
  .ask x y .answer

/-- The result of a computation for a comparison. The first comparison that fails ends it. -/
def run (less : α → α → Except ε Bool) : Asking α β → Except ε β
  | .answer b => .ok b
  | .ask x y next =>
    match less x y with
    | .ok reply => (next reply).run less
    | .error e => .error e

/-! ### What a computation ensures -/

/-- All questions of a computation are of some kind and, as long as the replies are admissible, its
result is as wanted. -/
def Ensures (asks : α → α → Prop) (tells : α → α → Bool → Prop) (wanted : β → Prop) :
    Asking α β → Prop
  | .answer b => wanted b
  | .ask x y next =>
    asks x y ∧ ∀ reply, tells x y reply → (next reply).Ensures asks tells wanted

section Ensures

variable {asks : α → α → Prop} {tells : α → α → Bool → Prop} {wanted : β → Prop}

theorem ensures_pure {b : β} (h : wanted b) : (pure b : Asking α β).Ensures asks tells wanted := h

theorem ensures_isLess {x y : α} (h : asks x y) : (isLess x y).Ensures asks tells (tells x y) :=
  ⟨h, fun _ htells => htells⟩

theorem Ensures.bind {wanted' : γ → Prop} {t : Asking α β} {f : β → Asking α γ}
    (h : t.Ensures asks tells wanted) (hf : ∀ b, wanted b → (f b).Ensures asks tells wanted') :
    (t >>= f).Ensures asks tells wanted' := by
  induction t with
  | answer b => exact hf b h
  | ask x y next ih => exact ⟨h.1, fun reply htells => ih reply (h.2 reply htells)⟩

theorem Ensures.mono {wanted' : β → Prop} {t : Asking α β} (h : t.Ensures asks tells wanted)
    (himp : ∀ b, wanted b → wanted' b) : t.Ensures asks tells wanted' := by
  induction t with
  | answer b => exact himp b h
  | ask x y next ih => exact ⟨h.1, fun reply htells => ih reply (h.2 reply htells)⟩

/-- A comparison gives a result as it is wanted, unless it fails on a question. -/
theorem Ensures.run_cases (less : α → α → Except ε Bool) {t : Asking α β}
    (h : t.Ensures asks (fun x y reply => asks x y ∧ less x y = .ok reply) wanted) :
    (∃ b, t.run less = .ok b ∧ wanted b) ∨
      ∃ e x y, t.run less = .error e ∧ asks x y ∧ less x y = .error e := by
  induction t with
  | answer b => exact .inl ⟨b, rfl, h⟩
  | ask x y next ih =>
    cases hreply : less x y with
    | error e => exact .inr ⟨e, x, y, by rw [run, hreply], h.1, hreply⟩
    | ok reply =>
      rw [run, hreply]
      exact ih reply (h.2 reply ⟨h.1, hreply⟩)

/-- Comparisons that agree on what is asked give the same result. -/
theorem Ensures.run_congr {less less' : α → α → Except ε Bool} {t : Asking α β}
    (h : t.Ensures asks (fun _ _ _ => True) wanted)
    (hless : ∀ x y, asks x y → less x y = less' x y) : t.run less = t.run less' := by
  induction t with
  | answer b => rfl
  | ask x y next ih =>
    rw [run, run, hless x y h.1]
    split
    · exact ih _ (h.2 _ trivial)
    · rfl

end Ensures

end Asking

end TableQuery
