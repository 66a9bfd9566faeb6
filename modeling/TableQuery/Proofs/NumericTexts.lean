import Mathlib.Data.Nat.Digits.Lemmas
import TableQuery.Proofs.WrittenValues

/-!
# Numeric texts

The grammar of the texts that are read as numbers, and what they are read as.

* `IsDigits`, `IsMantissa`, `IsDecimalText`: the grammar of decimal numbers.
* `IsIntegerText`, `signedValue`: a sign and digits, and the integer that they denote.
* `Numeral.ofText?_append`: what is put together by the grammar is a numeral with its parts.
* `isNumeral_iff`, `Numeral.toInt?_eq_some_iff`: which texts are numerals, and which of them stand
  for an integer.
* `Value.ofText_reads_decimals`: what every text is read as.
-/

namespace TableQuery

open Number Text

namespace Number

/-! ### The grammar -/

/-- One or more decimal digits of any script. -/
def IsDigits (t : Text) : Prop :=
  t ≠ [] ∧ IsDigitRun t

/-- Digits, which a point with or without further digits can follow, or a point and digits. -/
inductive IsMantissa : Text → Prop
  | whole {digits : Text} : IsDigits digits → IsMantissa digits
  | pointed {digits : Text} : IsDigits digits → IsMantissa (digits ++ [.char '.'])
  | fractional {digits more : Text} :
      IsDigits digits → IsDigits more → IsMantissa (digits ++ .char '.' :: more)
  | bare {more : Text} : IsDigits more → IsMantissa (.char '.' :: more)

/-- A decimal number: a sign or none, a mantissa, and an exponent or none. -/
inductive IsDecimalText : Text → Prop
  | intro {sign mantissa exponent : Text} : IsSign sign → IsMantissa mantissa →
      IsExponent exponent → IsDecimalText (sign ++ mantissa ++ exponent)

/-- A sign or none, and digits. -/
def IsIntegerText (t sign digits : Text) : Prop :=
  t = sign ++ digits ∧ IsSign sign ∧ IsDigits digits

/-- The integer that a sign and digits denote, the first digit having the highest place. -/
def signedValue (sign digits : Text) : Int :=
  Double.signed (decide (sign = [.char '-']))
    (Nat.ofDigits 10 (digits.filterMap digitValue?).reverse)

/-- A mantissa is a run of digits and a fraction, not both without a digit. -/
theorem isMantissa_iff {t : Text} : IsMantissa t ↔ ∃ whole fraction : Text, t = whole ++ fraction ∧
    IsDigitRun whole ∧ IsFraction fraction ∧ (whole ≠ [] ∨ 2 ≤ fraction.length) := by
  constructor
  · rintro (⟨hne, hrun⟩ | ⟨hne, hrun⟩ | ⟨⟨hne, hrun⟩, -, hmore⟩ | ⟨hne, hmore⟩)
    · exact ⟨t, [], by simp, hrun, Or.inl rfl, Or.inl hne⟩
    · exact ⟨_, _, rfl, hrun, Or.inr ⟨[], rfl, by simp [IsDigitRun]⟩, Or.inl hne⟩
    · exact ⟨_, _, rfl, hrun, Or.inr ⟨_, rfl, hmore⟩, Or.inl hne⟩
    · refine ⟨[], _, rfl, by simp [IsDigitRun], Or.inr ⟨_, rfl, hmore⟩, Or.inr ?_⟩
      have hpos := List.length_pos_iff.2 hne
      simp only [List.length_cons]
      omega
  · rintro ⟨whole, fraction, rfl, hwhole, rfl | ⟨more, rfl, hmore⟩, hdigits⟩
    · rw [List.append_nil]
      exact .whole ⟨hdigits.resolve_right (by simp), hwhole⟩
    · by_cases hne : whole = []
      · subst hne
        refine .bare ⟨?_, hmore⟩
        rintro rfl
        simp at hdigits
      · by_cases hnone : more = []
        · subst hnone
          exact .pointed ⟨hne, hwhole⟩
        · exact .fractional ⟨hne, hwhole⟩ ⟨hnone, hmore⟩

/-! ### Reading what the grammar puts together -/

section Parts

variable {sign whole fraction exponent digits front rest : Text} {p : Point}

theorem length_filterMap_digitValue? (h : IsDigitRun digits) :
    (digits.filterMap digitValue?).length = digits.length := by
  induction digits with
  | nil => rfl
  | cons p digits ih =>
    obtain ⟨hp, hdigits⟩ := List.forall_mem_cons.1 h
    obtain ⟨d, hd⟩ := Option.isSome_iff_exists.1 hp
    rw [List.filterMap_cons_some hd, List.length_cons, List.length_cons, ih hdigits]

theorem filterMap_digitValue?_ne_nil (h : IsDigitRun digits) (hne : digits ≠ []) :
    digits.filterMap digitValue? ≠ [] := by
  rw [← List.length_pos_iff, length_filterMap_digitValue? h]
  exact List.length_pos_iff.2 hne

theorem mem_head?_append (hp : p ∈ (front ++ rest).head?) : p ∈ front ∨ p ∈ rest.head? := by
  cases front with
  | nil => exact Or.inr hp
  | cons q front => exact Or.inl (by simp_all)

theorem IsDigitRun.ne_of_mem {q : Point} (h : IsDigitRun digits) (hq : isDecimal q = false)
    (hp : p ∈ digits) : p ≠ q := by
  rintro rfl
  exact Bool.false_ne_true (hq.symm.trans (h p hp))

theorem IsExponent.head? (h : IsExponent exponent) : ∀ p ∈ exponent.head?, p = 'e' ∨ p = 'E' := by
  rcases h with rfl | ⟨letter, sign, digits, rfl, hletter, -⟩
  · simp
  · simpa using hletter

theorem IsFraction.head? (h : IsFraction fraction) : ∀ p ∈ (fraction ++ rest).head?,
    p = '.' ∨ p ∈ rest.head? := by
  rcases h with rfl | ⟨digits, rfl, -⟩
  · exact fun p hp => Or.inr hp
  · simp

theorem takeSign_append (hsign : IsSign sign) (hrest : ∀ p ∈ rest.head?, p ≠ '+' ∧ p ≠ '-') :
    takeSign (sign ++ rest) = (decide (sign = [.char '-']), rest) := by
  rcases hsign with rfl | rfl | rfl
  · show takeSign rest = (false, rest)
    unfold takeSign
    split
    · exact absurd rfl (hrest _ rfl).1
    · exact absurd rfl (hrest _ rfl).2
    · rfl
  · rfl
  · rfl

theorem takeFraction_append (hfraction : IsFraction fraction)
    (hrest : ∀ p ∈ rest.head?, isDecimal p = false ∧ p ≠ '.') :
    ∃ digits, takeFraction (fraction ++ rest) = (digits, rest) ∧ (digits = none ↔ fraction = []) ∧
      (2 ≤ fraction.length → digits.getD [] ≠ []) := by
  rcases hfraction with rfl | ⟨digits, rfl, hdigits⟩
  · refine ⟨none, ?_, by simp, by simp⟩
    show takeFraction rest = (none, rest)
    unfold takeFraction
    split
    · exact absurd rfl (hrest _ rfl).2
    · rfl
  · have htake := takeDigits_append hdigits fun p hp => (hrest p hp).1
    refine ⟨some (digits.filterMap digitValue?), by simp [takeFraction, htake], by simp, ?_⟩
    intro hlength
    refine filterMap_digitValue?_ne_nil hdigits ?_
    rintro rfl
    simp at hlength

theorem exponentOf?_of_isExponent (h : IsExponent exponent) :
    ∃ value, Numeral.exponentOf? exponent = some value ∧ (value = none ↔ exponent = []) := by
  rcases h with rfl | ⟨letter, sign, digits, rfl, hletter, hsign, hdigits, hne⟩
  · exact ⟨none, rfl, by simp⟩
  · have hsign' : takeSign (sign ++ digits) = (decide (sign = [.char '-']), digits) :=
      takeSign_append hsign fun p hp =>
        ⟨hdigits.ne_of_mem (by decide) (List.mem_of_mem_head? hp),
          hdigits.ne_of_mem (by decide) (List.mem_of_mem_head? hp)⟩
    have hvalues := filterMap_digitValue?_ne_nil hdigits hne
    refine ⟨some (Double.signed (decide (sign = [.char '-']))
      (positional (digits.filterMap digitValue?))), ?_, by simp⟩
    simp only [List.cons_append, Numeral.exponentOf?, if_pos hletter, hsign',
      takeDigits_of_isDigitRun hdigits, List.isEmpty_nil, Bool.not_true, Bool.or_false,
      List.isEmpty_iff, if_neg hvalues]
    rfl

/-- The parts of a numeral are found again, and nothing is left over. -/
theorem Numeral.ofText?_append (hsign : IsSign sign) (hwhole : IsDigitRun whole)
    (hfraction : IsFraction fraction) (hexponent : IsExponent exponent)
    (hdigits : whole ≠ [] ∨ 2 ≤ fraction.length) :
    ∃ numeral, ofText? (sign ++ (whole ++ (fraction ++ exponent))) = some numeral ∧
      numeral.negative = decide (sign = [.char '-']) ∧ numeral.whole = whole.filterMap digitValue? ∧
      (numeral.fraction = none ↔ fraction = []) ∧ (numeral.exponent = none ↔ exponent = []) := by
  have hend : ∀ p ∈ exponent.head?, isDecimal p = false ∧ p ≠ '.' := by
    intro p hp
    rcases hexponent.head? p hp with rfl | rfl <;> decide
  have hmiddle : ∀ p ∈ (fraction ++ exponent).head?, isDecimal p = false ∧ p ≠ '+' ∧ p ≠ '-' := by
    intro p hp
    rcases hfraction.head? p hp with rfl | hp
    · decide
    · rcases hexponent.head? p hp with rfl | rfl <;> decide
  have hstart : ∀ p ∈ (whole ++ (fraction ++ exponent)).head?, p ≠ '+' ∧ p ≠ '-' := by
    intro p hp
    rcases mem_head?_append hp with hp | hp
    · exact ⟨hwhole.ne_of_mem (by decide) hp, hwhole.ne_of_mem (by decide) hp⟩
    · exact (hmiddle p hp).2
  obtain ⟨places, hplaces, hnone, hsome⟩ := takeFraction_append hfraction hend
  obtain ⟨value, hvalue, hplain⟩ := exponentOf?_of_isExponent hexponent
  have htake := takeDigits_append hwhole fun p hp => (hmiddle p hp).1
  have hnonempty : ¬((whole.filterMap digitValue?).isEmpty && (places.getD []).isEmpty) = true := by
    rw [Bool.and_eq_true, List.isEmpty_iff, List.isEmpty_iff]
    rintro ⟨hwhole', hplaces'⟩
    rcases hdigits with hne | hlength
    · exact filterMap_digitValue?_ne_nil hwhole hne hwhole'
    · exact hsome hlength hplaces'
  refine ⟨⟨decide (sign = [.char '-']), whole.filterMap digitValue?, places, value⟩, ?_, rfl, rfl,
    hnone, hplain⟩
  simp only [ofText?, takeSign_append hsign hstart, htake, hplaces, hvalue, if_neg hnonempty]
  rfl

end Parts

/-! ### Numerals -/

/-- Just the texts of the grammar are numerals. -/
theorem Numeral.isSome_ofText?_iff {t : Text} :
    (ofText? t).isSome = true ↔ IsDecimalText t := by
  constructor
  · intro h
    obtain ⟨numeral, hnumeral⟩ := Option.isSome_iff_exists.1 h
    obtain ⟨sign, whole, fraction, exponent, rfl, hsign, hwhole, hfraction, hexponent, hdigits⟩ :=
      parts_of_ofText? hnumeral
    rw [List.append_assoc sign]
    exact .intro hsign (isMantissa_iff.2 ⟨_, _, rfl, hwhole, hfraction, hdigits⟩) hexponent
  · rintro ⟨hsign, hmantissa, hexponent⟩
    obtain ⟨whole, fraction, rfl, hwhole, hfraction, hdigits⟩ := isMantissa_iff.1 hmantissa
    obtain ⟨numeral, hnumeral, -⟩ := ofText?_append hsign hwhole hfraction hexponent hdigits
    simp only [List.append_assoc, hnumeral, Option.isSome_some]

theorem positional_eq_ofDigits (digits : List Nat) :
    positional digits = Nat.ofDigits 10 digits.reverse := by
  induction digits using List.reverseRecOn with
  | nil => rfl
  | append_singleton digits d ih =>
    have hsplit : positional (digits ++ [d]) = 10 * positional digits + d := by simp [positional]
    rw [hsplit, ih, List.reverse_append, List.reverse_singleton, List.singleton_append,
      Nat.ofDigits_cons, Nat.add_comm]

/-- Just a sign and digits, not too many of them, stand for an integer, and for the one that they
denote. -/
theorem Numeral.toInt?_eq_some_iff {t : Text} {n : Int} :
    (∃ numeral, ofText? t = some numeral ∧ numeral.toInt? = some n) ↔
      ∃ sign digits, IsIntegerText t sign digits ∧ digits.length ≤ maxIntegerDigits ∧
        n = signedValue sign digits := by
  constructor
  · rintro ⟨numeral, hnumeral, hn⟩
    obtain ⟨sign, whole, fraction, exponent, rfl, hsign, hwhole, hfraction, hexponent, hdigits⟩ :=
      parts_of_ofText? hnumeral
    obtain ⟨parts, hparts, hnegative, hvalues, hnone, hplain⟩ :=
      ofText?_append hsign hwhole hfraction hexponent hdigits
    simp only [List.append_assoc] at hnumeral
    obtain rfl := Option.some.inj (hnumeral.symm.trans hparts)
    unfold toInt? at hn
    split at hn
    · rename_i hshort
      simp only [Bool.and_eq_true, Option.isNone_iff_eq_none, decide_eq_true_eq] at hshort
      obtain ⟨⟨hfraction', hexponent'⟩, hlength⟩ := hshort
      obtain rfl := hnone.1 hfraction'
      obtain rfl := hplain.1 hexponent'
      rw [hvalues, length_filterMap_digitValue? hwhole] at hlength
      refine ⟨sign, whole, ⟨by simp, hsign, hdigits.resolve_right (by simp), hwhole⟩, hlength, ?_⟩
      rw [hvalues, hnegative, positional_eq_ofDigits] at hn
      exact (Option.some.inj hn).symm
    · exact nomatch hn
  · rintro ⟨sign, digits, ⟨rfl, hsign, hne, hrun⟩, hlength, rfl⟩
    have hfraction : IsFraction [] := Or.inl rfl
    have hexponent : IsExponent [] := Or.inl rfl
    obtain ⟨numeral, hnumeral, hnegative, hvalues, hnone, hplain⟩ :=
      ofText?_append hsign hrun hfraction hexponent (Or.inl hne)
    rw [List.append_nil, List.append_nil] at hnumeral
    refine ⟨numeral, hnumeral, ?_⟩
    rw [toInt?, hnone.2 rfl, hplain.2 rfl, hvalues, hnegative, length_filterMap_digitValue? hrun,
      positional_eq_ofDigits]
    simp only [Option.isNone_none, Bool.and_self, decide_eq_true hlength, if_true]
    rfl

end Number

/-! ### Values -/

namespace Value

variable {t : Text}

theorem ofText_eq_text_iff {s : Text} : ofText t = .text s ↔ s = t ∧ ¬isNumeral t = true := by
  unfold ofText isNumeral
  cases numeral? t with
  | none => simp [eq_comm]
  | some numeral => cases hint : numeral.toInt? <;> simp [hint]

theorem ofText_eq_int_iff {n : Int} : ofText t = .int n ↔
    ∃ numeral, numeral? t = some numeral ∧ numeral.toInt? = some n := by
  unfold ofText
  cases numeral? t with
  | none => simp
  | some numeral => cases hint : numeral.toInt? <;> simp [hint]

/-- A numeral that is not read as an integer is read as a double. -/
theorem exists_ofText_eq_float_iff : (∃ x, ofText t = .float x) ↔
    isNumeral t = true ∧ ¬∃ n, ofText t = .int n := by
  unfold ofText isNumeral
  cases numeral? t with
  | none => simp
  | some numeral => cases hint : numeral.toInt? <;> simp [hint]

/-- A text is numeric just if, apart from blanks around it, it is a decimal number of the grammar.
Reading a text never fails: one that is not numeric is read as itself, blanks included, a sign and
digits, at most 4300 of them, as the integer that they denote, and every other numeric text as a
double. An integer of at most 4300 digits is read back from the text that it is written as. -/
theorem ofText_reads_decimals :
    (∀ t : Text, (isNumeral t = true ↔ IsDecimalText (trim t)) ∧
      (∀ s, ofText t = .text s ↔ s = t ∧ ¬IsDecimalText (trim t)) ∧
      (∀ n, ofText t = .int n ↔ ∃ sign digits, IsIntegerText (trim t) sign digits ∧
        digits.length ≤ 4300 ∧ n = signedValue sign digits) ∧
      ((∃ x, ofText t = .float x) ↔ IsDecimalText (trim t) ∧
        ¬∃ sign digits, IsIntegerText (trim t) sign digits ∧ digits.length ≤ 4300)) ∧
    ∀ n : Int, n.natAbs < 10 ^ maxIntegerDigits →
      ∃ t, (Value.int n).format = .ok t ∧ ofText t = .int n := by
  refine ⟨fun t => ?_, fun n hn => ⟨_, format_of_isStorable hn, ofText_integerText hn⟩⟩
  have hnumeric : isNumeral t = true ↔ IsDecimalText (trim t) := Numeral.isSome_ofText?_iff
  have hint (n : Int) : ofText t = .int n ↔ ∃ sign digits, IsIntegerText (trim t) sign digits ∧
      digits.length ≤ 4300 ∧ n = signedValue sign digits :=
    ofText_eq_int_iff.trans Numeral.toInt?_eq_some_iff
  refine ⟨hnumeric, fun s => by rw [ofText_eq_text_iff, hnumeric], hint, ?_⟩
  rw [exists_ofText_eq_float_iff, hnumeric]
  refine and_congr_right fun _ => not_congr ⟨?_, ?_⟩
  · rintro ⟨n, hn⟩
    obtain ⟨sign, digits, htext, hlength, -⟩ := (hint n).1 hn
    exact ⟨sign, digits, htext, hlength⟩
  · rintro ⟨sign, digits, htext, hlength⟩
    exact ⟨_, (hint _).2 ⟨sign, digits, htext, hlength, rfl⟩⟩

/-- Digits of another script between blanks, a point with an exponent but no digit after it, and a
point alone. -/
theorem ofText_reads_decimals_scripts :
    ofText "\t-١٢٠ " = .int (-120) ∧
      (∃ sign digits, IsIntegerText (trim "\t-١٢٠ ") sign digits ∧ digits.length ≤ 4300 ∧
        -120 = signedValue sign digits) ∧
      (IsDecimalText (trim "1.e5") ∧ ∃ x, ofText "1.e5" = .float x) ∧
      (¬IsDecimalText (trim " . ") ∧ ofText " . " = .text " . ") ∧
      (-120 : Int).natAbs < 10 ^ maxIntegerDigits ∧
      ∃ t, (Value.int (-120)).format = .ok t ∧ ofText t = .int (-120) := by
  obtain ⟨hread, hwritten⟩ := ofText_reads_decimals
  have hint : ofText "\t-١٢٠ " = .int (-120) := by decide
  have hfloat : ∃ x, ofText "1.e5" = .float x := ⟨.ofDecimal false 1 5, by decide +kernel⟩
  have htext : ofText " . " = .text " . " := by decide
  have hsmall : (-120 : Int).natAbs < 10 ^ maxIntegerDigits := by
    have hpow : 10 ^ 3 ≤ 10 ^ maxIntegerDigits := Nat.pow_le_pow_right (by decide) (by decide)
    exact Nat.lt_of_lt_of_le (by decide) hpow
  exact ⟨hint, ((hread _).2.2.1 _).1 hint, ⟨((hread _).2.2.2.1 hfloat).1, hfloat⟩,
    ⟨(((hread _).2.1 _).1 htext).2, htext⟩, hsmall, hwritten (-120) hsmall⟩

end Value

end TableQuery
