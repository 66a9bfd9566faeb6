import TableQuery.Proofs.StorableStatements
import TableQuery.Proofs.StoredTexts
import TableQuery.Proofs.Stretches

/-!
# Values that are written and read again

The text of a number is the numeral of that number, so that it is read as the same number again.
Other numerals of the number are read as it, too, but they are not what it is written as.

* `WrittenNumber.ofText?_text`: a written number is a numeral with its parts.
* `Value.ofText_integerText`, `Value.ofText_doubleText`: a number comes back from its text.
* `IsOwnText`: the texts that stand for themselves, with or without being numerals.
* `written_ofText_eq_self_iff`: just these are written as they were read.
-/

namespace TableQuery

open Number Text

namespace Number

/-! ### Reading written numbers -/

theorem digitValue?_char {c : Char} (h : c.isDigit = true) :
    digitValue? (.char c) = some (c.toNat - 0x30) := by
  have hbounds : 0x30 ≤ c.toNat ∧ c.toNat ≤ 0x39 := Char.isDigit_iff_toNat.1 h
  show digitFrom zeroDigits c.toNat = _
  unfold zeroDigits digitFrom
  rw [if_neg (by omega), if_pos (by omega)]

theorem isDigitRun_chars {digits : List Char} (h : AreDigits digits) :
    IsDigitRun (digits.map Point.char) := by
  intro p hp
  obtain ⟨c, hc, rfl⟩ := List.mem_map.1 hp
  rw [isDecimal, digitValue?_char (h c hc)]
  rfl

theorem takeDigits_chars {digits : List Char} {rest : Text} (h : AreDigits digits)
    (hrest : ∀ p ∈ rest.head?, isDecimal p = false) :
    takeDigits (digits.map Point.char ++ rest) = (digitValues digits, rest) := by
  have hvalues : (digits.map Point.char).filterMap digitValue? = digitValues digits := by
    rw [digitValues, List.filterMap_map, ← List.filterMap_eq_map]
    exact List.filterMap_congr fun c hc => digitValue?_char (h c hc)
  rw [takeDigits_append (isDigitRun_chars h) hrest, hvalues]

namespace WrittenNumber

variable {number : WrittenNumber} {rest : Text}

theorem takeFraction_text (hproper : number.IsProper)
    (hrest : ∀ p ∈ rest.head?, isDecimal p = false ∧ p ≠ '.') :
    takeFraction (number.fractionText.map Point.char ++ rest) =
      (number.numeral.fraction, rest) := by
  unfold fractionText numeral
  by_cases hfraction : number.fraction = []
  · rw [if_pos hfraction]
    unfold takeFraction
    split
    · rename_i heq
      exact absurd rfl (hrest '.' (by simpa using congrArg List.head? heq)).2
    · simp [hfraction]
  · have htake := takeDigits_chars hproper.fraction_digits fun p hp => (hrest p hp).1
    rw [if_neg hfraction]
    simp [takeFraction, htake, hfraction]

theorem exponentOf?_text (hproper : number.IsProper) :
    Numeral.exponentOf? (number.exponentText.map Point.char) = some number.numeral.exponent := by
  unfold exponentText numeral exponentValue
  cases hexponent : number.exponent with
  | none => rfl
  | some exponent =>
    obtain ⟨negative, digits⟩ := exponent
    obtain ⟨hdigits, hne⟩ := hproper.exponent_digits negative digits hexponent
    have hend : ∀ p ∈ ([] : Text).head?, isDecimal p = false := by simp
    have htake := takeDigits_chars hdigits hend
    have hvalues : digitValues digits ≠ [] := by simpa [digitValues] using hne
    rw [List.append_nil] at htake
    cases negative <;>
      simp [Numeral.exponentOf?, takeSign, htake, hvalues, positional_digitValues]

theorem takeSign_text (hproper : number.IsProper) :
    takeSign number.text = (number.negative, number.body.map Point.char) := by
  obtain ⟨c, more, hc, htext⟩ := text_front hproper
  have hbody : number.body.map Point.char = .char c :: more := List.append_cancel_left htext
  have hplus : c ≠ '+' := by
    rintro rfl
    exact absurd hc (by decide)
  have hminus : c ≠ '-' := by
    rintro rfl
    exact absurd hc (by decide)
  rw [htext, hbody]
  cases number.negative <;> simp [takeSign, Text.ofString, hplus, hminus]

/-- A written number is a numeral with its parts. -/
theorem ofText?_text (hproper : number.IsProper) :
    Numeral.ofText? number.text = some number.numeral := by
  have hsign := takeSign_text hproper
  have hexponent := exponentOf?_text hproper
  have hafter : ∀ p ∈ (number.exponentText.map Point.char).head?,
      isDecimal p = false ∧ p ≠ '.' := by
    rw [← List.append_nil (number.exponentText.map Point.char)]
    exact forall_head?_exponentText (by decide) (by simp)
  have hfraction := takeFraction_text hproper hafter
  have hbefore : ∀ p ∈ (number.fractionText.map Point.char ++
      number.exponentText.map Point.char).head?, isDecimal p = false :=
    forall_head?_fractionText (by decide) fun p hp => (hafter p hp).1
  have hwhole := takeDigits_chars hproper.whole_digits hbefore
  have hbody : number.body.map Point.char = number.whole.map Point.char ++
      (number.fractionText.map Point.char ++ number.exponentText.map Point.char) := by
    simp [body]
  rw [hbody] at hsign
  simp only [Numeral.ofText?, hsign, hwhole, hfraction, hexponent]
  simp [hproper.digitValues_whole_ne_nil, numeral]

theorem numeral?_text (hproper : number.IsProper) :
    numeral? number.text = some number.numeral := by
  have hnumeral := ofText?_text hproper
  have hsolid : ∀ p ∈ number.text, isBlank p = false :=
    fun p hp => isBlank_of_inRun (inRun_of_numeral hnumeral p hp)
  have htrim : trim number.text = number.text :=
    trim_eq_self (fun p hp => hsolid p (List.mem_of_mem_head? hp))
      (fun p hp => hsolid p (List.mem_of_getLast? hp))
  rw [numeral?, htrim, hnumeral]

end WrittenNumber

/-- An integer that a double is equal to is not overlong. -/
theorem Double.natAbs_lt_of_toInt? {x : Double} {n : Int} (h : x.toInt? = some n) :
    n.natAbs < 10 ^ maxIntegerDigits := by
  cases x with
  | nan => cases h
  | infinite negative => cases h
  | finite negative units fits =>
    have hrange : tooLarge ≤ 10 ^ maxIntegerDigits := by
      refine Nat.le_trans (Nat.pow_le_pow_left (show 2 ≤ 10 by decide) topPlace) ?_
      exact Nat.pow_le_pow_right (by decide) (by unfold topPlace; decide)
    rw [toInt?] at h
    split at h
    · obtain rfl := Option.some.inj h
      rw [natAbs_signed]
      exact Nat.lt_of_le_of_lt (Nat.div_le_self units one) (Nat.lt_of_lt_of_le fits.2 hrange)
    · cases h

end Number

/-! ### Values -/

namespace Value

theorem ofText_integerText {n : Int} (h : n.natAbs < 10 ^ maxIntegerDigits) :
    ofText (integerText n) = .int n := by
  rw [ofText, ← text_writtenInteger, WrittenNumber.numeral?_text (writtenInteger_isProper n)]
  simp only [toInt?_writtenInteger h]

theorem ofText_doubleText (negative : Bool) {units : Nat} (fits : Number.Fits units) :
    ofText (Double.finite negative units fits).text = .float (.finite negative units fits) := by
  obtain ⟨number, hproper, hpart, htext, hdouble⟩ := exists_written_double negative fits
  have hinexact : number.numeral.toInt? = none := by
    rw [Numeral.toInt?, WrittenNumber.isNone_numeral hpart]
    rfl
  rw [ofText, ← htext, WrittenNumber.numeral?_text hproper]
  simp only [hinexact, hdouble]

end Value

/-! ### Texts that stand for themselves -/

/-- No numeral, or the numeral that its number is written as: an integer that is not overlong, or a
double without an integral value. -/
def IsOwnText (t : Text) : Prop :=
  isNumeral t = false ∨ (∃ n : Int, n.natAbs < 10 ^ maxIntegerDigits ∧ t = integerText n) ∨
    ∃ x : Double, x.toInt? = none ∧ t = x.text

theorem isOwnText_of_written {t : Text} (h : (Value.ofText t).written = t) : IsOwnText t := by
  unfold Value.ofText at h
  cases hnumeral : numeral? t with
  | none => exact Or.inl (by rw [isNumeral, hnumeral]; rfl)
  | some numeral =>
    simp only [hnumeral] at h
    refine Or.inr ?_
    cases hint : numeral.toInt? with
    | some n =>
      simp only [hint] at h
      exact Or.inl ⟨n, Numeral.natAbs_toInt? hnumeral hint, h.symm⟩
    | none =>
      simp only [hint, Value.written] at h
      cases hdouble : numeral.toDouble.toInt? with
      | some n =>
        simp only [hdouble] at h
        exact Or.inl ⟨n, Double.natAbs_lt_of_toInt? hdouble, h.symm⟩
      | none =>
        simp only [hdouble] at h
        exact Or.inr ⟨numeral.toDouble, hdouble, h.symm⟩

theorem IsOwnText.written_ofText {t : Text} (h : IsOwnText t) : (Value.ofText t).written = t := by
  rcases h with hno | ⟨n, hn, rfl⟩ | ⟨x, hx, rfl⟩
  · have hnone : numeral? t = none := by simpa [isNumeral] using hno
    rw [Value.ofText, hnone]
    rfl
  · rw [Value.ofText_integerText hn]
    rfl
  · cases x with
    | nan => decide
    | infinite negative => cases negative <;> decide
    | finite negative units fits =>
      rw [Value.ofText_doubleText negative fits, Value.written, hx]

/-- Just the texts that stand for themselves are written as they were read. -/
theorem written_ofText_eq_self_iff {t : Text} : (Value.ofText t).written = t ↔ IsOwnText t :=
  ⟨isOwnText_of_written, IsOwnText.written_ofText⟩

/-- A numeral that its number is not written as. -/
example : (Value.ofText "007").format = .ok "7" := by decide

end TableQuery
