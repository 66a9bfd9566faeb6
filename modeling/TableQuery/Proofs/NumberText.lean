import Mathlib.Data.List.DropRight
import TableQuery.Json.Reader
import TableQuery.Proofs.Rounding

/-!
# Numbers that are written and read again

* `digitsValue`: the number that digits spell.
* `WrittenNumber`: a number as it stands in a document, with its text and the numeral read from it.
* `WrittenNumber.readNumber?_text`: what the reader makes of a written number.
* `writtenInteger`, `toInt?_writtenInteger`: an integer comes back if it is not overlong.
* `Numeral.natAbs_lt_of_toInt?`: no integer that is read is overlong.
* `exists_lays`: each layout of digits is a written number of the same value.
* `exists_written_double`: every finite double comes back.
-/

namespace TableQuery.Number

open Json (isAsciiDigit takeAsciiDigits readFraction readExponent readNumber?)

/-! ### Digits -/

/-- Only the digits from `0` to `9`. -/
def AreDigits (digits : List Char) : Prop :=
  ∀ c ∈ digits, c.isDigit = true

/-- The number that digits spell. -/
def digitsValue (digits : List Char) : Nat :=
  Nat.ofDigitChars 10 digits 0

/-- The values of digits. -/
def digitValues (digits : List Char) : List Nat :=
  digits.map fun c => c.toNat - 0x30

theorem positional_digitValues (digits : List Char) :
    positional (digitValues digits) = digitsValue digits := by
  simp [positional, digitValues, digitsValue, Nat.ofDigitChars_eq_foldl, List.foldl_map]

theorem digitValues_append (digits more : List Char) :
    digitValues (digits ++ more) = digitValues digits ++ digitValues more :=
  List.map_append

theorem digitsValue_append_zeros (digits : List Char) (n : Nat) :
    digitsValue (digits ++ List.replicate n '0') = digitsValue digits * 10 ^ n := by
  rw [digitsValue, Nat.ofDigitChars_append, Nat.ofDigitChars_replicate_zero, Nat.mul_comm]
  rfl

theorem digitsValue_zeros_append (digits : List Char) (n : Nat) :
    digitsValue (List.replicate n '0' ++ digits) = digitsValue digits := by
  rw [digitsValue, Nat.ofDigitChars_append, Nat.ofDigitChars_replicate_zero]
  rfl

theorem areDigits_toDigits (n : Nat) : AreDigits (Nat.toDigits 10 n) :=
  fun _ => Nat.isDigit_of_mem_toDigits (by decide) (by decide)

theorem digitsValue_toDigits (n : Nat) : digitsValue (Nat.toDigits 10 n) = n :=
  Nat.ofDigitChars_ten_toDigits

/-- Only the numeral of zero starts with a zero. -/
theorem head?_toDigits {n : Nat} (hn : n ≠ 0) : ∀ c ∈ (Nat.toDigits 10 n).head?, c ≠ '0' := by
  induction n using Nat.strongRecOn with
  | ind n ih =>
    by_cases hsmall : n < 10
    · rw [Nat.toDigits_of_lt_base hsmall]
      simp [hn]
    · rw [Nat.toDigits_of_base_le (by decide) (by omega),
        List.head?_append_of_ne_nil _ Nat.toDigits_ne_nil]
      exact ih (n / 10) (by omega) (by omega)

theorem areDigits_zeros (n : Nat) : AreDigits (List.replicate n '0') := by
  intro c hc
  rw [List.eq_of_mem_replicate hc]
  rfl

theorem AreDigits.append {digits more : List Char} (h : AreDigits digits) (h' : AreDigits more) :
    AreDigits (digits ++ more) := by
  intro c hc
  rcases List.mem_append.1 hc with hc | hc
  · exact h c hc
  · exact h' c hc

theorem AreDigits.subset {digits more : List Char} (h : AreDigits more) (hsub : digits ⊆ more) :
    AreDigits digits :=
  fun c hc => h c (hsub hc)

theorem isAsciiDigit_char {c : Char} (h : c.isDigit = true) : isAsciiDigit (.char c) = true := by
  have hbounds := Char.isDigit_iff_toNat.1 h
  rw [isAsciiDigit, Bool.and_eq_true]
  exact ⟨decide_eq_true hbounds.1, decide_eq_true hbounds.2⟩

/-! ### Written numbers -/

/-- A number as it stands in a document. An empty fraction stands for none. -/
structure WrittenNumber where
  negative : Bool
  whole : List Char
  fraction : List Char
  /-- Whether the exponent is negative, and its digits. -/
  exponent : Option (Bool × List Char)

namespace WrittenNumber

/-- The text of the exponent. -/
def exponentText (number : WrittenNumber) : List Char :=
  match number.exponent with
  | none => []
  | some (negative, digits) => 'e' :: (if negative then '-' else '+') :: digits

/-- The text of the fraction. -/
def fractionText (number : WrittenNumber) : List Char :=
  if number.fraction = [] then [] else '.' :: number.fraction

/-- The text without its sign. -/
def body (number : WrittenNumber) : List Char :=
  number.whole ++ number.fractionText ++ number.exponentText

/-- The text. -/
def text (number : WrittenNumber) : Text :=
  (if number.negative then "-" else "") ++ number.body.map Point.char

/-- The value of the exponent, zero if there is none. -/
def exponentValue (number : WrittenNumber) : Int :=
  match number.exponent with
  | none => 0
  | some (negative, digits) =>
    if negative then -(digitsValue digits : Int) else digitsValue digits

/-- The parts that the reader finds. -/
def numeral (number : WrittenNumber) : Numeral where
  negative := number.negative
  whole := digitValues number.whole
  fraction := if number.fraction = [] then none else some (digitValues number.fraction)
  exponent := number.exponent.map fun _ => number.exponentValue

/-- Digits everywhere, and no superfluous zero at the front. -/
structure IsProper (number : WrittenNumber) : Prop where
  whole_digits : AreDigits number.whole
  whole_front : number.whole = ['0'] ∨ ∃ c rest, number.whole = c :: rest ∧ c ≠ '0'
  fraction_digits : AreDigits number.fraction
  exponent_digits : ∀ negative digits, number.exponent = some (negative, digits) →
    AreDigits digits ∧ digits ≠ []

theorem toDouble_numeral (number : WrittenNumber) :
    number.numeral.toDouble = Double.ofDecimal number.negative
      (digitsValue (number.whole ++ number.fraction))
      (number.exponentValue - number.fraction.length) := by
  have hfraction : number.numeral.fraction.getD [] = digitValues number.fraction := by
    by_cases h : number.fraction = [] <;> simp [numeral, h, digitValues]
  have hexponent : number.numeral.exponent.getD 0 = number.exponentValue := by
    cases h : number.exponent <;> simp [numeral, exponentValue, h]
  unfold Numeral.toDouble
  simp only [hfraction, hexponent]
  have hlength : (digitValues number.fraction).length = number.fraction.length :=
    List.length_map _
  rw [hlength]
  congr 1
  exact (congrArg positional (digitValues_append _ _).symm).trans (positional_digitValues _)

theorem IsProper.digitValues_whole_ne_nil {number : WrittenNumber} (h : number.IsProper) :
    digitValues number.whole ≠ [] := by
  rcases h.whole_front with h | ⟨c, more, h, -⟩ <;> simp [h, digitValues]

/-- A number with a fraction or an exponent is no numeral of an integer. -/
theorem isNone_numeral {number : WrittenNumber}
    (h : number.fraction ≠ [] ∨ number.exponent ≠ none) :
    (number.numeral.fraction.isNone && number.numeral.exponent.isNone) = false := by
  rcases h with h | h
  · simp [numeral, h]
  · obtain ⟨exponent, hsome⟩ := Option.ne_none_iff_exists'.1 h
    simp [numeral, hsome]

end WrittenNumber

/-! ### Reading them -/

/-- What follows does not continue a number. -/
def EndsNumber (rest : Text) : Prop :=
  ∀ p ∈ rest.head?, isAsciiDigit p = false ∧ p ≠ '.' ∧ p ≠ 'e' ∧ p ≠ 'E'

theorem takeAsciiDigits_append {digits : List Char} {rest : Text} (h : AreDigits digits)
    (hrest : ∀ p ∈ rest.head?, isAsciiDigit p = false) :
    takeAsciiDigits (digits.map Point.char ++ rest) = (digitValues digits, rest) := by
  have hpos : ∀ p ∈ digits.map Point.char, isAsciiDigit p = true := by
    intro p hp
    obtain ⟨c, hc, rfl⟩ := List.mem_map.1 hp
    exact isAsciiDigit_char (h c hc)
  have hstop : rest.takeWhile isAsciiDigit = [] ∧ rest.dropWhile isAsciiDigit = rest := by
    cases rest with
    | nil => simp
    | cons p rest => simp [hrest p (by simp)]
  unfold takeAsciiDigits
  rw [List.takeWhile_append_of_pos hpos, List.dropWhile_append_of_pos hpos, hstop.1, hstop.2]
  simp [digitValues, Point.value]

namespace WrittenNumber

variable {number : WrittenNumber} {rest : Text}

theorem readFraction_text (hproper : number.IsProper)
    (hrest : ∀ p ∈ rest.head?, isAsciiDigit p = false ∧ p ≠ '.') :
    readFraction (number.fractionText.map Point.char ++ rest) =
      (number.numeral.fraction, rest) := by
  unfold fractionText numeral
  by_cases hfraction : number.fraction = []
  · rw [if_pos hfraction]
    cases rest with
    | nil => simp [readFraction, hfraction]
    | cons p rest =>
      have hpoint : p ≠ '.' := (hrest p (by simp)).2
      unfold readFraction
      split
      · rename_i heq
        obtain ⟨rfl, -⟩ := List.cons.inj heq
        exact absurd rfl hpoint
      · simp [hfraction]
  · have htake := takeAsciiDigits_append hproper.fraction_digits fun p hp => (hrest p hp).1
    have hvalues : digitValues number.fraction ≠ [] := by simpa [digitValues] using hfraction
    rw [if_neg hfraction]
    simp only [List.map_cons, List.cons_append, readFraction, htake]
    simp [hfraction, hvalues]

theorem readExponent_text (hproper : number.IsProper)
    (hrest : ∀ p ∈ rest.head?, isAsciiDigit p = false ∧ p ≠ 'e' ∧ p ≠ 'E') :
    readExponent (number.exponentText.map Point.char ++ rest) =
      (number.numeral.exponent, rest) := by
  unfold exponentText numeral exponentValue
  cases hexponent : number.exponent with
  | none =>
    cases rest with
    | nil => simp [readExponent]
    | cons p rest =>
      obtain ⟨-, he, hE⟩ := hrest p (by simp)
      simp [readExponent, he, hE]
  | some exponent =>
    obtain ⟨negative, digits⟩ := exponent
    obtain ⟨hdigits, hne⟩ := hproper.exponent_digits negative digits hexponent
    have htake := takeAsciiDigits_append hdigits fun p hp => (hrest p hp).1
    have hvalues : digitValues digits ≠ [] := by simpa [digitValues] using hne
    cases negative <;>
      simp [readExponent, takeSign, htake, hvalues, positional_digitValues]

/-- What stands after the fraction is an exponent or what follows the number. -/
theorem forall_head?_exponentText {P : Point → Prop} (hletter : P 'e')
    (hrest : ∀ p ∈ rest.head?, P p) :
    ∀ p ∈ (number.exponentText.map Point.char ++ rest).head?, P p := by
  unfold exponentText
  cases number.exponent with
  | none => exact hrest
  | some exponent =>
    intro p hp
    obtain rfl : Point.char 'e' = p := by simpa using hp
    exact hletter

/-- What stands after the whole part is a fraction or what follows it. -/
theorem forall_head?_fractionText {P : Point → Prop} (hpoint : P '.')
    (hrest : ∀ p ∈ rest.head?, P p) :
    ∀ p ∈ (number.fractionText.map Point.char ++ rest).head?, P p := by
  unfold fractionText
  by_cases h : number.fraction = []
  · rw [if_pos h]
    exact hrest
  · rw [if_neg h]
    intro p hp
    obtain rfl : Point.char '.' = p := by simpa using hp
    exact hpoint

theorem readNumber?_text (hproper : number.IsProper) (hrest : EndsNumber rest) :
    readNumber? (number.text ++ rest) = some (number.numeral, rest) := by
  have hexponent := readExponent_text hproper fun p hp => ⟨(hrest p hp).1, (hrest p hp).2.2⟩
  have hafter : ∀ p ∈ (number.exponentText.map Point.char ++ rest).head?,
      isAsciiDigit p = false ∧ p ≠ '.' :=
    forall_head?_exponentText (by decide) fun p hp => ⟨(hrest p hp).1, (hrest p hp).2.1⟩
  have hfraction := readFraction_text hproper hafter
  have hbefore : ∀ p ∈ (number.fractionText.map Point.char ++
      (number.exponentText.map Point.char ++ rest)).head?, isAsciiDigit p = false :=
    forall_head?_fractionText (by decide) fun p hp => (hafter p hp).1
  have htext : number.text ++ rest = (if number.negative then "-" else "") ++
      (number.whole.map Point.char ++ (number.fractionText.map Point.char ++
        (number.exponentText.map Point.char ++ rest))) := by
    simp [text, body]
  rw [htext]
  generalize hlater : number.fractionText.map Point.char ++
    (number.exponentText.map Point.char ++ rest) = later at *
  have hwhole := hproper.digitValues_whole_ne_nil
  have hread : ∀ negative : Bool, readNumber? ((if negative then "-" else "") ++
      (number.whole.map Point.char ++ later)) =
      some (⟨negative, digitValues number.whole, number.numeral.fraction, number.numeral.exponent⟩,
        rest) := by
    intro negative
    rcases hproper.whole_front with hzero | ⟨c, more, hcons, hc⟩
    · rw [hzero]
      cases negative <;> simp [readNumber?, Text.ofString, hfraction, hexponent, digitValues]
    · have hdash : c ≠ '-' := by
        rintro rfl
        exact absurd (hproper.whole_digits '-' (by simp [hcons])) (by decide)
      have htake := takeAsciiDigits_append hproper.whole_digits hbefore
      rw [hcons] at htake hwhole ⊢
      simp only [List.map_cons, List.cons_append] at htake ⊢
      cases negative <;>
        simp [readNumber?, Text.ofString, hc, hdash, htake, hwhole, hfraction, hexponent]
  exact hread number.negative

end WrittenNumber

/-! ### The characters of a number -/

/-- A printed ASCII character or a blank. -/
def IsPlain (p : Point) : Prop :=
  0x20 ≤ p.value ∧ p.value ≤ 0x7E

instance (p : Point) : Decidable (IsPlain p) :=
  inferInstanceAs (Decidable (_ ∧ _))

namespace WrittenNumber

variable {number : WrittenNumber}

/-- After its sign a number starts with a digit. -/
theorem text_front (hproper : number.IsProper) :
    ∃ (c : Char) (more : Text), c.isDigit = true ∧
      number.text = (if number.negative then "-" else "") ++ Point.char c :: more := by
  obtain ⟨c, more, hcons⟩ : ∃ c more, number.whole = c :: more := by
    rcases hproper.whole_front with h | ⟨c, more, h, -⟩
    · exact ⟨_, _, h⟩
    · exact ⟨_, _, h⟩
  refine ⟨c, (more ++ number.fractionText ++ number.exponentText).map Point.char,
    hproper.whole_digits c (by simp [hcons]), ?_⟩
  simp [text, body, hcons]

theorem text_plain (hproper : number.IsProper) : ∀ p ∈ number.text, IsPlain p := by
  have hdigit {c : Char} (hc : c.isDigit = true) : IsPlain (.char c) := by
    have hbounds : 0x30 ≤ c.toNat ∧ c.toNat ≤ 0x39 := Char.isDigit_iff_toNat.1 hc
    show 0x20 ≤ c.toNat ∧ c.toNat ≤ 0x7E
    omega
  have hfraction : ∀ c ∈ number.fractionText, IsPlain (.char c) := by
    unfold fractionText
    split
    · simp
    · intro c hc
      rcases List.mem_cons.1 hc with rfl | hc
      · decide
      · exact hdigit (hproper.fraction_digits c hc)
  have hexponent : ∀ c ∈ number.exponentText, IsPlain (.char c) := by
    unfold exponentText
    split
    · simp
    · rename_i negative digits heq
      intro c hc
      rcases List.mem_cons.1 hc with rfl | hc
      · decide
      rcases List.mem_cons.1 hc with rfl | hc
      · cases negative <;> decide
      · exact hdigit ((hproper.exponent_digits negative digits heq).1 c hc)
  intro p hp
  rcases List.mem_append.1 hp with hp | hp
  · have hsign : p ∈ [Point.char '-'] := by
      cases hneg : number.negative with
      | false => simp [hneg, Text.ofString] at hp
      | true => simpa [hneg, Text.ofString] using hp
    obtain rfl := List.mem_singleton.1 hsign
    decide
  · obtain ⟨c, hc, rfl⟩ := List.mem_map.1 hp
    rcases List.mem_append.1 hc with hc | hc
    · rcases List.mem_append.1 hc with hc | hc
      · exact hdigit (hproper.whole_digits c hc)
      · exact hfraction c hc
    · exact hexponent c hc

end WrittenNumber

/-! ### Integers -/

/-- An integer as it stands in a document. -/
def writtenInteger (n : Int) : WrittenNumber :=
  ⟨decide (n < 0), Nat.toDigits 10 n.natAbs, [], none⟩

theorem writtenInteger_isProper (n : Int) : (writtenInteger n).IsProper where
  whole_digits := areDigits_toDigits _
  whole_front := by
    by_cases hzero : n.natAbs = 0
    · exact Or.inl (by rw [writtenInteger, hzero]; rfl)
    · obtain ⟨c, rest, hcons⟩ := List.exists_cons_of_ne_nil (Nat.toDigits_ne_nil (b := 10))
      exact Or.inr ⟨c, rest, hcons, head?_toDigits hzero c (by rw [hcons]; rfl)⟩
  fraction_digits := by simp [writtenInteger, AreDigits]
  exponent_digits := by simp [writtenInteger]

theorem text_writtenInteger (n : Int) : (writtenInteger n).text = integerText n := by
  simp [WrittenNumber.text, writtenInteger, WrittenNumber.body, WrittenNumber.fractionText,
    WrittenNumber.exponentText, integerText, naturalText]

theorem toInt?_writtenInteger {n : Int} (h : n.natAbs < 10 ^ maxIntegerDigits) :
    (writtenInteger n).numeral.toInt? = some n := by
  have hlength : (digitValues (Nat.toDigits 10 n.natAbs)).length ≤ maxIntegerDigits := by
    rw [digitValues, List.length_map]
    exact (Nat.length_toDigits_le_iff (by decide) (by decide)).2 h
  have hvalue : (positional (digitValues (Nat.toDigits 10 n.natAbs)) : Int) = n.natAbs := by
    rw [positional_digitValues, digitsValue_toDigits]
  simp only [Numeral.toInt?, WrittenNumber.numeral, writtenInteger]
  rw [hvalue]
  simp only [if_true, Option.isNone_none, Option.map_none, Bool.and_self, hlength, decide_true]
  by_cases hneg : n < 0
  · simp only [hneg, decide_true, if_true]
    congr 1
    omega
  · simp only [hneg, decide_false]
    congr 1
    simp only [Bool.false_eq_true, if_false]
    omega

theorem positional_lt {digits : List Nat} (h : ∀ d ∈ digits, d < 10) :
    positional digits < 10 ^ digits.length := by
  induction digits using List.reverseRecOn with
  | nil => decide
  | append_singleton digits d ih =>
    have hrest := ih fun d hd => h d (List.mem_append_left _ hd)
    have hd := h d (by simp)
    have hsplit : positional (digits ++ [d]) = 10 * positional digits + d := by
      simp [positional]
    rw [hsplit, List.length_append, List.length_singleton, Nat.pow_succ]
    omega

/-- A numeral of digits that is read as an integer is not overlong. -/
theorem Numeral.natAbs_lt_of_toInt? {numeral : Numeral} {n : Int}
    (hdigits : ∀ d ∈ numeral.whole, d < 10) (h : numeral.toInt? = some n) :
    n.natAbs < 10 ^ maxIntegerDigits := by
  unfold Numeral.toInt? at h
  split at h
  · rename_i hshort
    simp only [Bool.and_eq_true, decide_eq_true_eq] at hshort
    have hlt := positional_lt hdigits
    have hpow : 10 ^ numeral.whole.length ≤ 10 ^ maxIntegerDigits :=
      Nat.pow_le_pow_right (by decide) hshort.2
    obtain rfl := Option.some.inj h
    split <;> omega
  · simp at h

/-! ### Layouts -/

/-- A written number that is laid out from digits and the place of their point: it has their value,
and it is not an integer. -/
structure Lays (digits : List Char) (point : Int) (number : WrittenNumber) : Prop where
  proper : number.IsProper
  inexact : number.fraction ≠ [] ∨ number.exponent ≠ none
  body : number.body = layout digits point
  value : ∃ zeros : Nat,
    digitsValue (number.whole ++ number.fraction) = digitsValue digits * 10 ^ zeros ∧
      number.exponentValue - number.fraction.length = point - digits.length - zeros

variable {digits : List Char} {point : Int}

theorem lays_small (negative : Bool) (hdigits : AreDigits digits) (hne : digits ≠ [])
    (hlow : -4 < point) (hhigh : point ≤ 0) :
    Lays digits point ⟨negative, ['0'], List.replicate point.natAbs '0' ++ digits, none⟩ where
  proper :=
    { whole_digits := areDigits_zeros 1
      whole_front := Or.inl rfl
      fraction_digits := (areDigits_zeros _).append hdigits
      exponent_digits := by simp }
  inexact := Or.inl (by simp [hne])
  body := by
    have hrange : -4 < point ∧ point ≤ 16 := ⟨hlow, by omega⟩
    simp [WrittenNumber.body, WrittenNumber.fractionText, WrittenNumber.exponentText, layout,
      hrange, hhigh, hne]
  value := by
    refine ⟨0, ?_, ?_⟩
    · have hzeros : ['0'] ++ (List.replicate point.natAbs '0' ++ digits) =
          List.replicate (point.natAbs + 1) '0' ++ digits := by
        simp [List.replicate_succ]
      show digitsValue (['0'] ++ (List.replicate point.natAbs '0' ++ digits)) = _
      rw [hzeros, digitsValue_zeros_append, Nat.pow_zero, Nat.mul_one]
    · simp only [WrittenNumber.exponentValue, List.length_append, List.length_replicate]
      omega

theorem lays_positional (negative : Bool) (hdigits : AreDigits digits)
    (hfront : ∃ c rest, digits = c :: rest ∧ c ≠ '0') (hlow : 0 < point) (hhigh : point ≤ 16) :
    Lays digits point
      ⟨negative, digits.take point.natAbs ++ List.replicate (point.natAbs - digits.length) '0',
        if digits.drop point.natAbs = [] then ['0'] else digits.drop point.natAbs, none⟩ where
  proper :=
    { whole_digits := (hdigits.subset (List.take_subset _ _)).append (areDigits_zeros _)
      whole_front := by
        obtain ⟨c, rest, rfl, hc⟩ := hfront
        obtain ⟨before, hbefore⟩ : ∃ before, point.natAbs = before + 1 :=
          Nat.exists_eq_succ_of_ne_zero (by omega)
        exact Or.inr ⟨c, _, by rw [hbefore]; rfl, hc⟩
      fraction_digits := by
        simp only
        split
        · exact areDigits_zeros 1
        · exact hdigits.subset (List.drop_subset _ _)
      exponent_digits := by simp }
  inexact := by
    left
    simp only
    split
    · simp
    · assumption
  body := by
    have hrange : -4 < point ∧ point ≤ 16 := ⟨by omega, hhigh⟩
    have hpos : ¬point ≤ 0 := by omega
    by_cases hdrop : digits.drop point.natAbs = [] <;>
      simp [WrittenNumber.body, WrittenNumber.fractionText, WrittenNumber.exponentText, layout,
        hrange, hpos, hdrop]
  value := by
    simp only [WrittenNumber.exponentValue]
    -- either zeros fill the digits up to the point, or the point splits them
    by_cases hdrop : digits.drop point.natAbs = []
    · have hlength : digits.length ≤ point.natAbs := List.drop_eq_nil_iff.1 hdrop
      refine ⟨point.natAbs - digits.length + 1, ?_, ?_⟩
      · rw [if_pos hdrop, List.take_of_length_le hlength, List.append_assoc,
          ← digitsValue_append_zeros, List.replicate_succ']
      · rw [if_pos hdrop]
        simp only [List.length_singleton]
        omega
    · have hlength : point.natAbs < digits.length := by
        rw [List.drop_eq_nil_iff] at hdrop
        omega
      refine ⟨0, ?_, ?_⟩
      · have hnone : point.natAbs - digits.length = 0 := by omega
        rw [if_neg hdrop, hnone, List.replicate_zero, List.append_nil, List.take_append_drop,
          Nat.pow_zero, Nat.mul_one]
      · rw [if_neg hdrop, List.length_drop]
        omega

/-- The digits of an exponent, at least two of them. -/
def exponentDigits (exponent : Int) : List Char :=
  if (Nat.toDigits 10 exponent.natAbs).length < 2 then '0' :: Nat.toDigits 10 exponent.natAbs
  else Nat.toDigits 10 exponent.natAbs

theorem digitsValue_exponentDigits (exponent : Int) :
    digitsValue (exponentDigits exponent) = exponent.natAbs := by
  unfold exponentDigits
  split
  · exact (digitsValue_zeros_append _ 1).trans (digitsValue_toDigits _)
  · exact digitsValue_toDigits _

theorem lays_exponent (negative : Bool) (hdigits : AreDigits digits)
    (hfront : ∃ c rest, digits = c :: rest ∧ c ≠ '0') (hout : ¬(-4 < point ∧ point ≤ 16)) :
    Lays digits point ⟨negative, digits.take 1, digits.drop 1,
      some (decide (point - 1 < 0), exponentDigits (point - 1))⟩ where
  proper :=
    { whole_digits := hdigits.subset (List.take_subset _ _)
      whole_front := by
        obtain ⟨c, rest, rfl, hc⟩ := hfront
        exact Or.inr ⟨c, [], rfl, hc⟩
      fraction_digits := hdigits.subset (List.drop_subset _ _)
      exponent_digits := by
        rintro - - ⟨⟩
        unfold exponentDigits
        split
        · exact ⟨(areDigits_zeros 1).append (areDigits_toDigits _), by simp⟩
        · exact ⟨areDigits_toDigits _, Nat.toDigits_ne_nil⟩ }
  inexact := Or.inr (by simp)
  body := by
    obtain ⟨c, rest, rfl, -⟩ := hfront
    cases rest <;>
      simp [WrittenNumber.body, WrittenNumber.fractionText, WrittenNumber.exponentText, layout,
        hout, exponentText, exponentDigits]
  value := by
    refine ⟨0, ?_, ?_⟩
    · show digitsValue (digits.take 1 ++ digits.drop 1) = _
      rw [List.take_append_drop, Nat.pow_zero, Nat.mul_one]
    · obtain ⟨c, rest, rfl, -⟩ := hfront
      simp only [WrittenNumber.exponentValue, digitsValue_exponentDigits, List.length_drop,
        List.length_cons, decide_eq_true_eq]
      split <;> omega

theorem exists_lays (negative : Bool) (hdigits : AreDigits digits)
    (hfront : ∃ c rest, digits = c :: rest ∧ c ≠ '0') (point : Int) :
    ∃ number : WrittenNumber, number.negative = negative ∧ Lays digits point number := by
  have hne : digits ≠ [] := by
    obtain ⟨c, rest, rfl, -⟩ := hfront
    exact List.cons_ne_nil _ _
  by_cases hrange : -4 < point ∧ point ≤ 16
  · by_cases hpos : point ≤ 0
    · exact ⟨_, rfl, lays_small negative hdigits hne hrange.1 hpos⟩
    · exact ⟨_, rfl, lays_positional negative hdigits hfront (by omega) hrange.2⟩
  · exact ⟨_, rfl, lays_exponent negative hdigits hfront hrange⟩

/-! ### Doubles -/

theorem dropTrailingZeros_append (digits : List Char) :
    ∃ n, digits = dropTrailingZeros digits ++ List.replicate n '0' := by
  refine ⟨(digits.reverse.takeWhile (· == '0')).length, ?_⟩
  have hzeros : digits.reverse.takeWhile (· == '0') =
      List.replicate (digits.reverse.takeWhile (· == '0')).length '0' := by
    rw [List.eq_replicate_iff]
    refine ⟨rfl, fun c hc => ?_⟩
    simpa using List.mem_takeWhile_imp hc
  have hsplit := List.takeWhile_append_dropWhile (p := (· == '0')) (l := digits.reverse)
  have hreverse := congrArg List.reverse hsplit
  rw [List.reverse_append, List.reverse_reverse] at hreverse
  rw [dropTrailingZeros, ← List.reverse_replicate, ← hzeros]
  exact hreverse.symm

/-- Dropping zeros at the end leaves the front of the numeral of a positive number. -/
theorem dropTrailingZeros_front {n : Nat} (hn : n ≠ 0) :
    ∃ c rest, dropTrailingZeros (Nat.toDigits 10 n) = c :: rest ∧ c ≠ '0' := by
  obtain ⟨zeros, hzeros⟩ := dropTrailingZeros_append (Nat.toDigits 10 n)
  have hfront := head?_toDigits hn
  cases hcut : dropTrailingZeros (Nat.toDigits 10 n) with
  | nil =>
    rw [hcut, List.nil_append] at hzeros
    cases zeros with
    | zero => exact absurd hzeros Nat.toDigits_ne_nil
    | succ zeros => exact absurd rfl (hfront '0' (by rw [hzeros]; rfl))
  | cons c rest =>
    rw [hcut] at hzeros
    exact ⟨c, rest, rfl, hfront c (by rw [hzeros]; rfl)⟩

/-- Zero as it stands in a document. -/
def writtenZero (negative : Bool) : WrittenNumber :=
  ⟨negative, ['0'], ['0'], none⟩

theorem writtenZero_isProper (negative : Bool) : (writtenZero negative).IsProper :=
  ⟨areDigits_zeros 1, Or.inl rfl, areDigits_zeros 1, by simp [writtenZero]⟩

theorem writtenZero_spec (negative : Bool) (fits : Fits 0) :
    (writtenZero negative).text = (Double.finite negative 0 fits).text ∧
      (writtenZero negative).numeral.toDouble = .finite negative 0 fits := by
  constructor
  · cases negative <;> rfl
  · rw [WrittenNumber.toDouble_numeral]
    show Double.ofDecimal negative 0 (.negSucc 0) = _
    have hnearest : nearest (0 * one) (10 ^ (0 + 1)) = 0 := by
      rw [Nat.zero_mul]
      exact nearest_eq_zero (by decide)
    simp only [Double.ofDecimal]
    rw [if_neg (by decide)]
    exact Double.ofQuotient_eq negative fits hnearest

/-- The text of a finite double is a written number that denotes the double. -/
theorem exists_written_double (negative : Bool) {units : Nat} (fits : Fits units) :
    ∃ number : WrittenNumber, number.IsProper ∧
      (number.fraction ≠ [] ∨ number.exponent ≠ none) ∧
      number.text = (Double.finite negative units fits).text ∧
      number.numeral.toDouble = .finite negative units fits := by
  by_cases hzero : units = 0
  · subst hzero
    obtain ⟨htext, hdouble⟩ := writtenZero_spec negative fits
    exact ⟨writtenZero negative, writtenZero_isProper negative, Or.inl (by simp [writtenZero]),
      htext, hdouble⟩
  · have hreads := readsBack_shortest_of_fits fits
    generalize hshortest : shortest units = found at hreads
    obtain ⟨shown, dropped⟩ := found
    have hshown := pos_of_readsBack hzero hreads
    -- zeros at the end of the shortest decimal are dropped, and the layout makes up for them
    obtain ⟨zeros, hzeros⟩ := dropTrailingZeros_append (Nat.toDigits 10 shown)
    have hdigits : AreDigits (dropTrailingZeros (Nat.toDigits 10 shown)) :=
      (areDigits_toDigits shown).subset (by
        conv_rhs => rw [hzeros]
        exact List.subset_append_left _ _)
    obtain ⟨number, hnegative, hlays⟩ := exists_lays negative hdigits
      (dropTrailingZeros_front (by omega)) ((Nat.toDigits 10 shown).length + dropped - places : Int)
    obtain ⟨more, hvalue, hexponent⟩ := hlays.value
    refine ⟨number, hlays.proper, hlays.inexact, ?_, ?_⟩
    · have htext : magnitudeText units = number.body := by
        rw [hlays.body, magnitudeText, if_neg hzero, hshortest]
      rw [WrittenNumber.text, Double.text, htext, hnegative]
    · have hlength : (Nat.toDigits 10 shown).length =
          (dropTrailingZeros (Nat.toDigits 10 shown)).length + zeros := by
        conv_lhs => rw [hzeros]
        rw [List.length_append, List.length_replicate]
      have hnumber : shown =
          digitsValue (dropTrailingZeros (Nat.toDigits 10 shown)) * 10 ^ zeros := by
        rw [← digitsValue_append_zeros, ← hzeros, digitsValue_toDigits]
      rw [WrittenNumber.toDouble_numeral, hnegative]
      refine @Double.ofDecimal_of_readsBack negative _ _ _ _ zeros more _ fits hzero hreads ?_ ?_
      · rw [hvalue]
        conv_rhs => rw [hnumber]
        exact Nat.mul_right_comm _ _ _
      · rw [hexponent]
        omega

end TableQuery.Number
