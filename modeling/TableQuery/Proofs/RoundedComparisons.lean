import TableQuery.Proofs.StoredTexts

/-!
# Comparing integers

Two integers are equal just if they are the same, but which is the greater is asked of the doubles
nearest to them.

* `Double.nearestUnits`: the double nearest to an integer, in units; `nearestUnits_mono`.
* `Merge`: two integers that have one nearest double.
* `Operator.Coherent`: answers of the operators that fit together.
* `Operator.holds_int`: the answers for two integers.
* `Operator.holds_int_coherent_iff`: they fit together unless the integers merge.
-/

namespace TableQuery

open Number

namespace Number

namespace Double

/-! ### The double nearest to an integer -/

/-- The double nearest to an integer, in units. -/
def nearestUnits (n : Int) : Int :=
  signed (decide (n < 0)) (nearest (n.natAbs * one) 1)

theorem nearestUnits_of_nonneg {n : Int} (h : 0 ≤ n) :
    nearestUnits n = nearest (n.natAbs * one) 1 := by
  rw [nearestUnits, decide_eq_false (Int.not_lt.2 h), signed, if_neg Bool.false_ne_true]

theorem nearestUnits_of_neg {n : Int} (h : n < 0) :
    nearestUnits n = -(nearest (n.natAbs * one) 1 : Int) := by
  rw [nearestUnits, decide_eq_true h, signed, if_pos rfl]

theorem nearestUnits_mono {a b : Int} (h : a ≤ b) : nearestUnits a ≤ nearestUnits b := by
  rcases Int.lt_or_le a 0 with ha | ha
  · rw [nearestUnits_of_neg ha]
    rcases Int.lt_or_le b 0 with hb | hb
    · have hle : nearest (b.natAbs * one) 1 ≤ nearest (a.natAbs * one) 1 :=
        nearest_mono 1 (Nat.mul_le_mul_right _ (by omega))
      rw [nearestUnits_of_neg hb]
      omega
    · rw [nearestUnits_of_nonneg hb]
      omega
  · have hle : nearest (a.natAbs * one) 1 ≤ nearest (b.natAbs * one) 1 :=
      nearest_mono 1 (Nat.mul_le_mul_right _ (by omega))
    rw [nearestUnits_of_nonneg ha, nearestUnits_of_nonneg (by omega)]
    omega

/-- Only zero is nearest to zero. -/
theorem one_le_nearest {n : Int} (h : n ≠ 0) : one ≤ nearest (n.natAbs * one) 1 := by
  refine two_pow_le_nearest ?_
  rw [Nat.div_one]
  exact Nat.le_mul_of_pos_left _ (by omega)

theorem nearestUnits_neg_iff {n : Int} : nearestUnits n < 0 ↔ n < 0 := by
  have hone : 0 < one := Nat.two_pow_pos places
  constructor
  · intro h
    by_contra hn
    rw [nearestUnits_of_nonneg (Int.not_lt.1 hn)] at h
    omega
  · intro h
    have hreach := one_le_nearest h.ne
    rw [nearestUnits_of_neg h]
    omega

/-- The integers that are not beyond every double. -/
theorem ofInt?_eq_some {n : Int} (h : n.natAbs < (2 ^ 54 - 1) * 2 ^ 970) :
    ∃ fits, ofInt? n = some (.finite (decide (n < 0)) (nearest (n.natAbs * one) 1) fits) := by
  have hsome : ofInt? n ≠ none := mt (ofInt?_eq_none_iff n).1 (Nat.not_le.2 h)
  rw [ofInt?, Ne, finite?_ofQuotient_eq_none_iff, Nat.not_le] at hsome
  exact ⟨fits_nearest hsome, by rw [ofInt?, ofQuotient_eq _ (fits_nearest hsome) rfl]; rfl⟩

theorem ofInt?_eq_ofInt?_iff {a b : Int} (ha : a.natAbs < (2 ^ 54 - 1) * 2 ^ 970)
    (hb : b.natAbs < (2 ^ 54 - 1) * 2 ^ 970) :
    ofInt? a = ofInt? b ↔ nearestUnits a = nearestUnits b := by
  obtain ⟨hfits, hdouble⟩ := ofInt?_eq_some ha
  obtain ⟨hfits', hdouble'⟩ := ofInt?_eq_some hb
  rw [hdouble, hdouble', Option.some.injEq, finite.injEq]
  constructor
  · rintro ⟨hsign, hunits⟩
    rw [nearestUnits, nearestUnits, hsign, hunits]
  · intro h
    have hsign : decide (a < 0) = decide (b < 0) := by
      rw [decide_eq_decide, ← nearestUnits_neg_iff, h, nearestUnits_neg_iff]
    have hunits := congrArg Int.natAbs h
    rw [nearestUnits, nearestUnits, natAbs_signed, natAbs_signed] at hunits
    exact ⟨hsign, hunits⟩

end Double

/-- Two different integers that have the same nearest double. -/
def Merge (a b : Int) : Prop :=
  a ≠ b ∧ Double.ofInt? a = Double.ofInt? b

/-- Integers that a double holds do not merge with each other. -/
theorem not_merge_of_isDoubleInteger {a b : Int} (ha : IsDoubleInteger a)
    (hb : IsDoubleInteger b) : ¬Merge a b := by
  rintro ⟨hne, hdouble⟩
  obtain ⟨x, hx, hplace⟩ := Double.ofInt?_of_isDoubleInteger ha
  obtain ⟨y, hy, hplace'⟩ := Double.ofInt?_of_isDoubleInteger hb
  obtain rfl : x = y := Option.some.inj (hx.symm.trans (hdouble.trans hy))
  have hequal : (Extended.ofInt a == .ofInt b) = true := by
    rw [beq_iff_eq]
    exact Option.some.inj (hplace.symm.trans hplace')
  rw [Extended.beq_ofInt, decide_eq_true_iff] at hequal
  exact hne hequal

end Number

/-! ### The operators -/

theorem two_pow_le_beyond {place gap : Nat} (h : place = 30 + gap) :
    2 ^ place ≤ (2 ^ 54 - 1) * 2 ^ gap := by
  rw [h, Nat.pow_add]
  exact Nat.mul_le_mul_right _ (by decide)

theorem Value.number_int {n : Int} (h : n.natAbs < (2 ^ 54 - 1) * 2 ^ 970) :
    ∃ x, (Value.int n).number = .ok x ∧ x.extended? = some (.finite (Double.nearestUnits n)) := by
  obtain ⟨fits, hdouble⟩ := Double.ofInt?_eq_some h
  have hnumber : (Value.int n).toDouble? = _ := hdouble
  exact ⟨_, by rw [number, hnumber], rfl⟩

namespace Operator

/-- The operators that compare two integers. -/
def comparing : List Operator :=
  [.less, .equal, .greater, .lessEqual, .greaterEqual]

/-- Just one of less, equal and greater holds, and the other two add equality to an order. -/
structure Coherent (answer : Operator → Bool) : Prop where
  one : [answer .less, answer .equal, answer .greater].count true = 1
  lessEqual : answer .lessEqual = (answer .less || answer .equal)
  greaterEqual : answer .greaterEqual = (answer .greater || answer .equal)

theorem coherent_iff {answer : Operator → Bool} {a b : Int} {merged : Prop} (hne : merged → a ≠ b)
    (hequal : answer .equal = true ↔ a = b) (hless : answer .less = true ↔ a < b ∧ ¬merged)
    (hgreater : answer .greater = true ↔ b < a ∧ ¬merged)
    (hlessEqual : answer .lessEqual = true ↔ a ≤ b ∨ merged)
    (hgreaterEqual : answer .greaterEqual = true ↔ b ≤ a ∨ merged) :
    Coherent answer ↔ ¬merged := by
  constructor
  · intro hcoherent hmerged
    have hone := hcoherent.one
    rw [Bool.eq_false_iff.2 fun h => (hless.1 h).2 hmerged,
      Bool.eq_false_iff.2 fun h => hne hmerged (hequal.1 h),
      Bool.eq_false_iff.2 fun h => (hgreater.1 h).2 hmerged] at hone
    exact absurd hone (by decide)
  · intro hapart
    simp only [hapart, not_false_iff, and_true, or_false] at hless hgreater hlessEqual hgreaterEqual
    refine ⟨?_, ?_, ?_⟩
    · rcases Int.lt_trichotomy a b with h | h | h
      · rw [hless.2 h, Bool.eq_false_iff.2 fun h' => h.ne (hequal.1 h'),
          Bool.eq_false_iff.2 fun h' => h.not_gt (hgreater.1 h')]
        rfl
      · rw [Bool.eq_false_iff.2 fun h' => (hless.1 h').ne h, hequal.2 h,
          Bool.eq_false_iff.2 fun h' => (hgreater.1 h').ne' h]
        rfl
      · rw [Bool.eq_false_iff.2 fun h' => h.not_gt (hless.1 h'),
          Bool.eq_false_iff.2 fun h' => h.ne' (hequal.1 h'), hgreater.2 h]
        rfl
    · rw [Bool.eq_iff_iff, Bool.or_eq_true, hlessEqual, hless, hequal]
      omega
    · rw [Bool.eq_iff_iff, Bool.or_eq_true, hgreaterEqual, hgreater, hequal]
      omega

/-- What the comparison of two integers answers. -/
def onIntegers (a b : Int) : Operator → Bool
  | .equal => decide (a = b)
  | .less => decide (Double.nearestUnits a < Double.nearestUnits b)
  | .greater => decide (Double.nearestUnits b < Double.nearestUnits a)
  | .lessEqual => !decide (Double.nearestUnits b < Double.nearestUnits a)
  | .greaterEqual => !decide (Double.nearestUnits a < Double.nearestUnits b)
  | _ => false

theorem holds_int {a b : Int} (ha : a.natAbs < (2 ^ 54 - 1) * 2 ^ 970)
    (hb : b.natAbs < (2 ^ 54 - 1) * 2 ^ 970) :
    ∀ operator ∈ comparing, operator.holds (.int a) (.int b) = .ok (onIntegers a b operator) := by
  obtain ⟨x, hleft, hplace⟩ := Value.number_int ha
  obtain ⟨y, hright, hplace'⟩ := Value.number_int hb
  intro operator hoperator
  simp only [comparing, List.mem_cons, List.not_mem_nil, or_false] at hoperator
  rcases hoperator with rfl | rfl | rfl | rfl | rfl
  case inr.inl =>
    simp [holds, onIntegers, Value.looselyEqual, Value.isNumber, Value.place?, sameNumber,
      Extended.beq_ofInt]
  all_goals
    simp [holds, orders, onIntegers, hleft, hright, hplace, hplace', Extended.lt]

/-- The answers for two integers fit together unless the integers merge. Then neither is less,
equal or greater, but each is less or equal and greater or equal. Integers of up to 53 bits do not
merge. -/
theorem holds_int_coherent_iff {a b : Int} (ha : a.natAbs < 2 ^ 1000) (hb : b.natAbs < 2 ^ 1000) :
    ∃ answer : Operator → Bool,
      (∀ operator ∈ comparing, operator.holds (.int a) (.int b) = .ok (answer operator)) ∧
      (Coherent answer ↔ ¬Merge a b) ∧
      (answer .equal = true ↔ a = b) ∧
      (answer .less = true ↔ a < b ∧ ¬Merge a b) ∧
      (answer .greater = true ↔ b < a ∧ ¬Merge a b) ∧
      (answer .lessEqual = true ↔ a ≤ b ∨ Merge a b) ∧
      (answer .greaterEqual = true ↔ b ≤ a ∨ Merge a b) ∧
      (a.natAbs ≤ 2 ^ 53 → b.natAbs ≤ 2 ^ 53 → ¬Merge a b) := by
  have hrange : 2 ^ 1000 ≤ (2 ^ 54 - 1) * 2 ^ 970 := two_pow_le_beyond rfl
  have ha := Nat.lt_of_lt_of_le ha hrange
  have hb := Nat.lt_of_lt_of_le hb hrange
  have hmerge : Merge a b ↔ a ≠ b ∧ Double.nearestUnits a = Double.nearestUnits b :=
    and_congr_right fun _ => Double.ofInt?_eq_ofInt?_iff ha hb
  have hup : a ≤ b → Double.nearestUnits a ≤ Double.nearestUnits b := Double.nearestUnits_mono
  have hdown : b ≤ a → Double.nearestUnits b ≤ Double.nearestUnits a := Double.nearestUnits_mono
  have hless : onIntegers a b .less = true ↔ a < b ∧ ¬Merge a b := by
    rw [onIntegers, decide_eq_true_iff, hmerge]
    omega
  have hgreater : onIntegers a b .greater = true ↔ b < a ∧ ¬Merge a b := by
    rw [onIntegers, decide_eq_true_iff, hmerge]
    omega
  have hlessEqual : onIntegers a b .lessEqual = true ↔ a ≤ b ∨ Merge a b := by
    rw [onIntegers, Bool.not_eq_true', decide_eq_false_iff_not, hmerge]
    omega
  have hgreaterEqual : onIntegers a b .greaterEqual = true ↔ b ≤ a ∨ Merge a b := by
    rw [onIntegers, Bool.not_eq_true', decide_eq_false_iff_not, hmerge]
    omega
  have hequal : onIntegers a b .equal = true ↔ a = b := decide_eq_true_iff
  refine ⟨onIntegers a b, holds_int ha hb,
    coherent_iff And.left hequal hless hgreater hlessEqual hgreaterEqual, hequal, hless, hgreater,
    hlessEqual, hgreaterEqual, fun hsmall hsmall' => ?_⟩
  exact not_merge_of_isDoubleInteger (Double.isDoubleInteger_of_natAbs_le hsmall)
    (Double.isDoubleInteger_of_natAbs_le hsmall')

theorem holds_int_coherent_iff_neighbours :
    let a : Int := 9007199254740992
    let b : Int := 9007199254740993
    a.natAbs < 2 ^ 1000 ∧ b.natAbs < 2 ^ 1000 ∧ Merge a b ∧ ∃ answer : Operator → Bool,
      (∀ operator ∈ comparing, operator.holds (.int a) (.int b) = .ok (answer operator)) ∧
      ¬Coherent answer ∧ answer .less = false ∧ answer .equal = false ∧ answer .greater = false ∧
      answer .lessEqual = true ∧ answer .greaterEqual = true := by
  intro a b
  have hrange {place : Nat} (h : 54 ≤ place) : 2 ^ 54 ≤ 2 ^ place :=
    Nat.pow_le_pow_right (by decide) h
  have ha : a.natAbs < 2 ^ 1000 := Nat.lt_of_lt_of_le (by decide) (hrange (by decide))
  have hb : b.natAbs < 2 ^ 1000 := Nat.lt_of_lt_of_le (by decide) (hrange (by decide))
  have hmerge : Merge a b := ⟨by decide, by decide +kernel⟩
  obtain ⟨answer, hholds, hcoherent, hequal, hless, hgreater, hlessEqual, hgreaterEqual, -⟩ :=
    holds_int_coherent_iff ha hb
  exact ⟨ha, hb, hmerge, answer, hholds, fun h => hcoherent.1 h hmerge,
    Bool.eq_false_iff.2 fun h => (hless.1 h).2 hmerge,
    Bool.eq_false_iff.2 fun h => hmerge.1 (hequal.1 h),
    Bool.eq_false_iff.2 fun h => (hgreater.1 h).2 hmerge,
    hlessEqual.2 (Or.inr hmerge), hgreaterEqual.2 (Or.inr hmerge)⟩

end Operator

end TableQuery
