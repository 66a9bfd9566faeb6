import Mathlib.Tactic.Ring
import TableQuery.Number.Shortest

/-!
# Rounding and decimals

* `nearest_congr`: rounding depends on the quotient only.
* `nearest_of_fits`: a magnitude that a double can hold is not changed.
* `nearest_eq_zero`, `two_pow_le_nearest`: quotients far out.
* `nearest_mono`: rounding keeps the order.
* `Double.ofInt?_eq_none_iff`: the integers that are beyond every double.
* `readsBack_shortest_of_fits`: the shortest decimal of a magnitude reads back.
* `Double.ofDecimal_of_readsBack`: a decimal that reads back denotes the double.
-/

namespace TableQuery.Number

/-! ### Quotients -/

theorem divideEven_mul (num den : Nat) {c : Nat} (hc : 0 < c) :
    divideEven (num * c) (den * c) = divideEven num den := by
  have hquotient : num * c / (den * c) = num / den := Nat.mul_div_mul_right num den hc
  have hremainder : num * c % (den * c) = num % den * c := Nat.mul_mod_mul_right c num den
  have hlow : 2 * (num % den * c) < den * c ↔ 2 * (num % den) < den := by
    rw [← Nat.mul_assoc]
    exact Nat.mul_lt_mul_right hc
  have hhigh : den * c < 2 * (num % den * c) ↔ den < 2 * (num % den) := by
    rw [← Nat.mul_assoc]
    exact Nat.mul_lt_mul_right hc
  simp only [divideEven, hquotient, hremainder, hlow, hhigh]

theorem divideEven_of_dvd {num den : Nat} (hden : 0 < den) (h : den ∣ num) :
    divideEven num den = num / den := by
  have hremainder : num % den = 0 := Nat.mod_eq_zero_of_dvd h
  simp [divideEven, hremainder, hden]

theorem le_divideEven (num den : Nat) : num / den ≤ divideEven num den := by
  simp only [divideEven]
  split
  · omega
  · split
    · omega
    · split <;> omega

theorem divideEven_mono {num num' : Nat} (den : Nat) (h : num ≤ num') :
    divideEven num den ≤ divideEven num' den := by
  have hquotient : num / den ≤ num' / den := Nat.div_le_div_right h
  rcases Nat.lt_or_eq_of_le hquotient with hlt | heq
  · calc divideEven num den ≤ num / den + 1 := divideEven_le num den
      _ ≤ num' / den := hlt
      _ ≤ divideEven num' den := le_divideEven num' den
  · have hremainder : num % den ≤ num' % den := by
      have hnum := Nat.div_add_mod num den
      have hnum' := Nat.div_add_mod num' den
      rw [heq] at hnum
      omega
    simp only [divideEven, heq]
    split_ifs <;> omega

theorem nearest_mul (num den : Nat) {c : Nat} (hc : 0 < c) :
    nearest (num * c) (den * c) = nearest num den := by
  have hquotient : num * c / (den * c) = num / den := Nat.mul_div_mul_right num den hc
  unfold nearest
  rw [hquotient, Nat.mul_right_comm den c, divideEven_mul _ _ hc]

/-- Equal quotients are rounded alike. -/
theorem nearest_congr {num den num' den' : Nat} (hden : 0 < den) (hden' : 0 < den')
    (h : num * den' = num' * den) : nearest num den = nearest num' den' := by
  rw [← nearest_mul num den hden', h, Nat.mul_comm den den', nearest_mul num' den' hden]

theorem two_pow_droppedBits_le {units : Nat} (h : 2 ^ 52 ≤ units) :
    2 ^ (droppedBits units + 52) ≤ units := by
  have hpos : units / 2 ^ 52 ≠ 0 := by
    have := Nat.div_pos h (by decide)
    omega
  have hlog : 2 ^ droppedBits units ≤ units / 2 ^ 52 := Nat.log2_self_le hpos
  rw [Nat.le_div_iff_mul_le (by decide)] at hlog
  rwa [Nat.pow_add]

/-- A magnitude of at most 52 bits loses none of them. -/
theorem le_of_droppedBits_pos {units : Nat} (h : 0 < droppedBits units) : 2 ^ 52 ≤ units := by
  by_contra hsmall
  have hzero : droppedBits units = 0 := by
    unfold droppedBits
    rw [Nat.div_eq_of_lt (by omega)]
    rfl
  omega

/-- A greater magnitude drops no fewer bits. -/
theorem droppedBits_mono {units units' : Nat} (h : units ≤ units') :
    droppedBits units ≤ droppedBits units' := by
  by_contra hless
  have hmany : 2 ^ (52 : Nat) ≤ units := le_of_droppedBits_pos (by omega)
  have hlow := two_pow_droppedBits_le hmany
  have hhigh := div_lt_of_droppedBits units'
  rw [Nat.div_lt_iff_lt_mul (Nat.two_pow_pos _), ← Nat.pow_add] at hhigh
  have hplace : 2 ^ (53 + droppedBits units') ≤ 2 ^ (droppedBits units + 52) :=
    Nat.pow_le_pow_right (by decide) (by omega)
  omega

/-- A double keeps all bits of its own magnitude. -/
theorem two_pow_droppedBits_dvd {units : Nat} (h : Fits units) :
    2 ^ droppedBits units ∣ units := by
  obtain ⟨⟨significand, shift, hsignificand, rfl⟩, -⟩ := h
  by_cases hsmall : significand * 2 ^ shift < 2 ^ 53
  · have hone : significand * 2 ^ shift / 2 ^ 52 ≤ 1 := by omega
    have hzero : droppedBits (significand * 2 ^ shift) = 0 := by
      have hcases :
          significand * 2 ^ shift / 2 ^ 52 = 0 ∨ significand * 2 ^ shift / 2 ^ 52 = 1 := by
        omega
      unfold droppedBits
      rcases hcases with h | h <;> rw [h] <;> rfl
    simp [hzero]
  · have hlarge : 2 ^ 52 ≤ significand * 2 ^ shift := by omega
    have hlow := two_pow_droppedBits_le hlarge
    generalize hbits : droppedBits (significand * 2 ^ shift) = bits at hlow ⊢
    -- the magnitude has at most 53 bits above its shift, so no more than that shift is dropped
    have hbound : 2 ^ (bits + 52) ≤ 2 ^ (53 + shift) := by
      rw [Nat.pow_add 2 53]
      exact Nat.le_trans hlow (Nat.mul_le_mul_right _ hsignificand)
    have hshift : bits + 52 ≤ 53 + shift := (Nat.pow_le_pow_iff_right (by decide)).1 hbound
    by_cases hfull : significand = 2 ^ 53
    · rw [hfull, ← Nat.pow_add]
      exact Nat.pow_dvd_pow 2 (by omega)
    · have hstrict : 2 ^ (bits + 52) < 2 ^ (53 + shift) := by
        rw [Nat.pow_add 2 53]
        refine Nat.lt_of_le_of_lt hlow (Nat.mul_lt_mul_of_pos_right ?_ (Nat.two_pow_pos _))
        omega
      have hstrict : bits + 52 < 53 + shift := (Nat.pow_lt_pow_iff_right (by decide)).1 hstrict
      exact Nat.dvd_mul_left_of_dvd (Nat.pow_dvd_pow 2 (by omega)) _

theorem nearest_of_fits {units : Nat} (h : Fits units) : nearest units 1 = units := by
  have hdvd := two_pow_droppedBits_dvd h
  unfold nearest
  rw [Nat.div_one, Nat.one_mul, divideEven_of_dvd (Nat.two_pow_pos _) hdvd,
    Nat.div_mul_cancel hdvd]

theorem nearest_eq_zero {num den : Nat} (h : 2 * num < den) : nearest num den = 0 := by
  have hquotient : num / den = 0 := Nat.div_eq_of_lt (by omega)
  have hbits : droppedBits 0 = 0 := rfl
  have hremainder : num % den = num := Nat.mod_eq_of_lt (by omega)
  simp [nearest, hquotient, hbits, divideEven, hremainder, h]

/-- Rounding does not bring a quotient below a power of two that it reaches. -/
theorem two_pow_le_nearest {num den place : Nat} (h : 2 ^ place ≤ num / den) :
    2 ^ place ≤ nearest num den := by
  unfold nearest
  generalize hbits : droppedBits (num / den) = bits
  have hfloor : num / den / 2 ^ bits ≤ divideEven num (den * 2 ^ bits) := by
    rw [Nat.div_div_eq_div_mul]
    exact le_divideEven _ _
  refine Nat.le_trans ?_ (Nat.mul_le_mul_right _ hfloor)
  by_cases hplace : bits ≤ place
  · obtain ⟨more, rfl⟩ := Nat.exists_eq_add_of_le hplace
    rw [Nat.pow_add, Nat.mul_comm]
    refine Nat.mul_le_mul_right _ ?_
    rwa [Nat.le_div_iff_mul_le (Nat.two_pow_pos _), Nat.mul_comm, ← Nat.pow_add]
  · -- the quotient has at least 53 bits, so it reaches `2 ^ bits` as well
    have hbig : 2 ^ 52 ≤ num / den := le_of_droppedBits_pos (by omega)
    have hreach : 2 ^ bits ≤ num / den := by
      have := two_pow_droppedBits_le hbig
      rw [hbits] at this
      exact Nat.le_trans (Nat.pow_le_pow_right (by decide) (by omega)) this
    have hone : 1 ≤ num / den / 2 ^ bits := Nat.div_pos hreach (Nat.two_pow_pos _)
    calc 2 ^ place ≤ 1 * 2 ^ bits := by
          rw [Nat.one_mul]
          exact Nat.pow_le_pow_right (by decide) (by omega)
      _ ≤ num / den / 2 ^ bits * 2 ^ bits := Nat.mul_le_mul_right _ hone

/-- Rounding keeps the order. -/
theorem nearest_mono {num num' : Nat} (den : Nat) (h : num ≤ num') :
    nearest num den ≤ nearest num' den := by
  have hquotient : num / den ≤ num' / den := Nat.div_le_div_right h
  rcases Nat.lt_or_eq_of_le (droppedBits_mono hquotient) with hbits | hbits
  · -- a power of two stands between the two quotients
    have hreach := two_pow_droppedBits_le (le_of_droppedBits_pos (Nat.zero_lt_of_lt hbits))
    calc nearest num den ≤ 2 ^ 53 * 2 ^ droppedBits (num / den) :=
          Nat.mul_le_mul_right _ (divideEven_le_of_droppedBits num den)
      _ = 2 ^ (53 + droppedBits (num / den)) := (Nat.pow_add 2 53 _).symm
      _ ≤ 2 ^ (droppedBits (num' / den) + 52) := Nat.pow_le_pow_right (by decide) (by omega)
      _ ≤ nearest num' den := two_pow_le_nearest hreach
  · unfold nearest
    rw [hbits]
    exact Nat.mul_le_mul_right _ (divideEven_mono _ h)

/-- Rounding goes beyond every double from the middle between the greatest double and the power
of two after it on. The middle itself goes there since that power is the even neighbour. -/
theorem tooLarge_le_nearest_iff {gap : Nat} (hgap : topPlace = 54 + gap) (num : Nat) :
    tooLarge ≤ nearest num 1 ↔ (2 ^ 54 - 1) * 2 ^ gap ≤ num := by
  have htop : tooLarge = 2 ^ 54 * 2 ^ gap := by rw [tooLarge, hgap, Nat.pow_add]
  have hround : nearest num 1 = divideEven num (2 ^ droppedBits num) * 2 ^ droppedBits num := by
    rw [nearest, Nat.div_one, Nat.one_mul]
  have hlow := div_lt_of_droppedBits num
  have hpos := Nat.two_pow_pos gap
  rcases Nat.lt_trichotomy (droppedBits num) (gap + 1) with hbits | hbits | hbits
  · -- here the doubles lie at most `2 ^ gap` apart, and neither side holds
    have hpow : 2 ^ droppedBits num ≤ 2 ^ gap := Nat.pow_le_pow_right (by decide) (by omega)
    have hhigh := divideEven_le_of_droppedBits num 1
    rw [Nat.div_one, Nat.one_mul] at hhigh
    rw [Nat.div_lt_iff_lt_mul (Nat.two_pow_pos _)] at hlow
    have hnearest := Nat.mul_le_mul hhigh hpow
    have hnum := Nat.mul_le_mul_left (2 ^ 53) hpow
    rw [hround, htop]
    omega
  · -- here the doubles lie `2 * 2 ^ gap` apart
    have hpow : 2 ^ droppedBits num = 2 * 2 ^ gap := by rw [hbits, Nat.pow_succ, Nat.mul_comm]
    rw [hpow] at hlow
    rw [hround, htop, hpow]
    generalize 2 ^ gap = half at *
    have hsplit := Nat.div_add_mod num (2 * half)
    have hrest := Nat.mod_lt num (show 0 < 2 * half by omega)
    simp only [divideEven]
    generalize num / (2 * half) = quotient at *
    generalize num % (2 * half) = rest at *
    by_cases hlast : quotient = 2 ^ 53 - 1
    · subst hlast
      rw [if_neg (show ¬(2 ^ 53 - 1) % 2 = 0 by decide)]
      split
      · omega
      · split <;> omega
    · have hquotient := Nat.mul_le_mul_left (2 * half) (show quotient ≤ 2 ^ 53 - 2 by omega)
      have hrounded : (if 2 * rest < 2 * half then quotient
          else if 2 * half < 2 * rest then quotient + 1
          else if quotient % 2 = 0 then quotient else quotient + 1) ≤ 2 ^ 53 - 1 := by
        split
        · omega
        · split
          · omega
          · split <;> omega
      have hmul := Nat.mul_le_mul_right (2 * half) hrounded
      omega
  · -- here the number itself is beyond every double
    have hnum : 2 ^ 52 ≤ num := le_of_droppedBits_pos (by omega)
    have hlarge : 2 ^ topPlace ≤ num :=
      Nat.le_trans (Nat.pow_le_pow_right (by decide) (by omega)) (two_pow_droppedBits_le hnum)
    refine iff_of_true (two_pow_le_nearest (by rwa [Nat.div_one])) ?_
    rw [← tooLarge, htop] at hlarge
    omega

/-! ### Decimals -/

theorem readsBack_exact {units : Nat} (h : Fits units) :
    readsBack units (units * 5 ^ places) 0 = true := by
  have hexact : nearest (units * 5 ^ places) (1 * 5 ^ places) = units := by
    rw [nearest_mul _ _ (Nat.pow_pos (by decide)), nearest_of_fits h]
  rw [Nat.one_mul] at hexact
  simp [readsBack, hexact]

theorem readsBack_shortest_of_fits {units : Nat} (h : Fits units) :
    readsBack units (shortest units).1 (shortest units).2 = true :=
  readsBack_shortest (readsBack_exact h)

theorem pos_of_readsBack {units digits dropped : Nat} (hunits : units ≠ 0)
    (h : readsBack units digits dropped = true) : 0 < digits := by
  rcases Nat.eq_zero_or_pos digits with rfl | hpos
  · have hzero : nearest 0 (5 ^ places) = 0 := nearest_eq_zero (Nat.pow_pos (by decide))
    simp only [readsBack, Nat.zero_mul, hzero, beq_iff_eq] at h
    exact absurd h.symm hunits
  · exact hpos

namespace Double

theorem ofQuotient_eq (negative : Bool) {num den units : Nat} (hfits : Fits units)
    (h : nearest num den = units) : ofQuotient negative num den = .finite negative units hfits := by
  subst h
  rw [ofQuotient, dif_pos hfits.2]

theorem finite?_ofQuotient_eq_none_iff (negative : Bool) (num den : Nat) :
    (ofQuotient negative num den).finite? = none ↔ tooLarge ≤ nearest num den := by
  by_cases hnear : nearest num den < tooLarge
  · rw [ofQuotient, dif_pos hnear]
    exact iff_of_false nofun (Nat.not_le.2 hnear)
  · rw [ofQuotient, dif_neg hnear]
    exact iff_of_true rfl (Nat.not_lt.1 hnear)

/-- Just the integers from the middle between the greatest double and the next power of two on
are beyond every double. -/
theorem ofInt?_eq_none_iff (n : Int) :
    ofInt? n = none ↔ (2 ^ 54 - 1) * 2 ^ 970 ≤ n.natAbs := by
  have hgap : topPlace = 54 + (970 + places) := by
    unfold topPlace places
    rfl
  generalize 970 = gap at *
  rw [ofInt?, finite?_ofQuotient_eq_none_iff, tooLarge_le_nearest_iff hgap,
    Nat.pow_add, ← Nat.mul_assoc, one]
  exact Nat.mul_le_mul_right_iff (Nat.two_pow_pos places)

/-- Decimals with a nonnegative exponent; one beyond every double is not reached. -/
theorem ofDecimal_ofNat (negative : Bool) {digits up units : Nat} (hfits : Fits units)
    (hdigits : 0 < digits) (h : nearest (digits * 10 ^ up * one) 1 = units) :
    ofDecimal negative digits (.ofNat up) = .finite negative units hfits := by
  have hup : up < 400 := by
    by_contra hlarge
    have hlow : 2 ^ topPlace ≤ digits * 10 ^ up * one / 1 := by
      calc 2 ^ topPlace ≤ 2 ^ (3 * up + places) := by
            refine Nat.pow_le_pow_right (by decide) ?_
            unfold topPlace places
            omega
        _ = 8 ^ up * one := by rw [Nat.pow_add, Nat.pow_mul, one]
        _ ≤ 10 ^ up * one := Nat.mul_le_mul_right _ (Nat.pow_le_pow_left (by decide) _)
        _ ≤ digits * 10 ^ up * one :=
            Nat.mul_le_mul_right _ (Nat.le_mul_of_pos_left _ hdigits)
        _ = digits * 10 ^ up * one / 1 := (Nat.div_one _).symm
    have hbig := two_pow_le_nearest hlow
    rw [h] at hbig
    exact absurd hfits.2 (Nat.not_lt.2 hbig)
  simp only [ofDecimal]
  rw [if_neg (by omega), if_neg (by omega)]
  exact ofQuotient_eq negative hfits h

/-- Decimals with a negative exponent; one that is rounded to zero is not reached. -/
theorem ofDecimal_negSucc (negative : Bool) {digits below units : Nat} (hfits : Fits units)
    (hunits : units ≠ 0)
    (h : nearest (digits * one) (10 ^ (below + 1)) = units) :
    ofDecimal negative digits (.negSucc below) = .finite negative units hfits := by
  have hdown : ¬digits.log2 + 1081 < 3 * (below + 1) := by
    intro hsmall
    refine hunits (h.symm.trans (nearest_eq_zero ?_))
    calc 2 * (digits * one) < 2 * (2 ^ (digits.log2 + 1) * one) := by
          refine Nat.mul_lt_mul_of_pos_left ?_ (by decide)
          exact Nat.mul_lt_mul_of_pos_right Nat.lt_log2_self (Nat.two_pow_pos _)
      _ = 2 ^ (digits.log2 + 2 + places) := by
          unfold one
          ring
      _ ≤ 2 ^ (3 * (below + 1)) := by
          refine Nat.pow_le_pow_right (by decide) ?_
          unfold places
          omega
      _ = 8 ^ (below + 1) := by
          rw [Nat.pow_mul]
      _ ≤ 10 ^ (below + 1) := Nat.pow_le_pow_left (by decide) _
  simp only [ofDecimal]
  rw [if_neg hdown]
  exact ofQuotient_eq negative hfits h

/-- A decimal that reads back as a magnitude denotes the double, however many zeros have been moved
from the exponent to the digits or back. -/
theorem ofDecimal_of_readsBack (negative : Bool) {units shown dropped digits up down : Nat}
    {exponent : Int} (hfits : Fits units) (hunits : units ≠ 0)
    (h : readsBack units shown dropped = true) (hdigits : digits * 10 ^ up = shown * 10 ^ down)
    (hexponent : exponent = up - down + dropped - places) :
    ofDecimal negative digits exponent = .finite negative units hfits := by
  have hnearest : nearest (shown * 10 ^ dropped) (5 ^ places) = units := by
    simpa [readsBack] using h
  have hpos : 0 < digits := by
    have hshown := pos_of_readsBack hunits h
    rcases Nat.eq_zero_or_pos digits with rfl | hpos
    · rw [Nat.zero_mul] at hdigits
      have : 0 < shown * 10 ^ down := Nat.mul_pos hshown (Nat.pow_pos (by decide))
      omega
    · exact hpos
  have hone : one * 5 ^ places = 10 ^ places := by
    unfold one
    rw [← Nat.mul_pow]
  have hten : 0 < 10 ^ down := Nat.pow_pos (by decide)
  -- the quotients are equal once both sides have the powers of ten that the other one lacks
  cases exponent with
  | ofNat n =>
    refine ofDecimal_ofNat negative hfits hpos ?_
    rw [← hnearest]
    refine nearest_congr (by decide) (Nat.pow_pos (by decide)) ?_
    have hplaces : n + places + down = up + dropped := by
      rw [Int.ofNat_eq_natCast] at hexponent
      omega
    apply Nat.eq_of_mul_eq_mul_right hten
    calc digits * 10 ^ n * one * 5 ^ places * 10 ^ down
        = digits * (10 ^ n * (one * 5 ^ places) * 10 ^ down) := by ring
      _ = digits * 10 ^ (n + places + down) := by rw [hone, Nat.pow_add, Nat.pow_add]
      _ = digits * 10 ^ up * 10 ^ dropped := by rw [hplaces, Nat.pow_add, Nat.mul_assoc]
      _ = shown * 10 ^ dropped * 1 * 10 ^ down := by rw [hdigits]; ring
  | negSucc n =>
    refine ofDecimal_negSucc negative hfits hunits ?_
    rw [← hnearest]
    refine nearest_congr (Nat.pow_pos (by decide)) (Nat.pow_pos (by decide)) ?_
    have hplaces : places + down = up + dropped + (n + 1) := by omega
    apply Nat.eq_of_mul_eq_mul_right hten
    calc digits * one * 5 ^ places * 10 ^ down
        = digits * ((one * 5 ^ places) * 10 ^ down) := by ring
      _ = digits * 10 ^ (places + down) := by rw [hone, Nat.pow_add]
      _ = digits * 10 ^ up * 10 ^ dropped * 10 ^ (n + 1) := by
          rw [hplaces, Nat.pow_add, Nat.pow_add]
          ring
      _ = shown * 10 ^ dropped * 10 ^ (n + 1) * 10 ^ down := by rw [hdigits]; ring

end Double

end TableQuery.Number
