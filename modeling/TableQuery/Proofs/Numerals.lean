import Mathlib.Data.List.DropRight
import TableQuery.Value.Basic

/-!
# The shape of numerals

* `trim_trim`: a text without its outer blanks has none.
* `IsDigitRun`, `IsSign`, `IsFraction`, `IsExponent`: what a numeral is put together from.
* `Numeral.parts_of_ofText?`: a text that is read as a numeral is put together from these.
* `Numeral.forall_of_ofText?`: what holds of everything in a numeral.
* `Value.ofText_trim`: blanks around a numeral do not change its value.
-/

namespace TableQuery

open Number Text

namespace Text

/-! ### Blanks -/

theorem trim_eq_rdropWhile (t : Text) : trim t = (t.dropWhile isBlank).rdropWhile isBlank := rfl

/-- A text is left as it is when it neither starts nor ends with a blank. -/
theorem trim_eq_self {t : Text} (hfirst : ∀ p ∈ t.head?, isBlank p = false)
    (hlast : ∀ p ∈ t.getLast?, isBlank p = false) : trim t = t := by
  have hfront : t.dropWhile isBlank = t := by
    cases t with
    | nil => rfl
    | cons p rest => simp [hfirst p (by simp)]
  rw [trim_eq_rdropWhile, hfront, List.rdropWhile_eq_self_iff]
  intro hne
  simp [hlast _ (List.getLast?_eq_some_getLast hne)]

theorem head?_trim {t : Text} : ∀ p ∈ (trim t).head?, isBlank p = false := by
  intro p hp
  have hprefix : trim t <+: t.dropWhile isBlank := List.rdropWhile_prefix _ _
  obtain ⟨rest, hrest⟩ : ∃ rest, trim t = p :: rest := List.head?_eq_some_iff.1 hp
  rw [hrest] at hprefix
  obtain ⟨more, hmore⟩ := hprefix
  have hne : t.dropWhile isBlank ≠ [] := by simp [← hmore]
  have hhead := List.head_dropWhile_not isBlank hne
  simpa [← hmore] using hhead

theorem getLast?_trim {t : Text} : ∀ p ∈ (trim t).getLast?, isBlank p = false := by
  intro p hp
  obtain ⟨hne, rfl⟩ := List.mem_getLast?_eq_getLast hp
  have hlast := List.rdropWhile_last_not isBlank (t.dropWhile isBlank) hne
  rwa [Bool.not_eq_true] at hlast

@[simp] theorem trim_trim (t : Text) : trim (trim t) = trim t :=
  trim_eq_self head?_trim getLast?_trim

/-! ### Digits -/

theorem digitFrom_eq_some {zeros : List Nat} {n d : Nat} (h : digitFrom zeros n = some d) :
    ∃ origin ∈ zeros, n = origin + d := by
  induction zeros with
  | nil => simp [digitFrom] at h
  | cons origin rest ih =>
    unfold digitFrom at h
    split at h
    · simp at h
    · split at h
      · obtain rfl := Option.some.inj h
        exact ⟨origin, by simp, by omega⟩
      · obtain ⟨later, hmem, rfl⟩ := ih h
        exact ⟨later, by simp [hmem], rfl⟩

/-- What holds of the ten digits of every script holds of every decimal digit. -/
theorem isDecimal_induction {P : Point → Prop}
    (h : ∀ origin ∈ zeroDigits, ∀ d < 10, P (Point.ofNat (origin + d))) {p : Point}
    (hp : isDecimal p = true) : P p := by
  obtain ⟨d, hd⟩ := Option.isSome_iff_exists.1 hp
  obtain ⟨origin, horigin, hvalue⟩ := digitFrom_eq_some hd
  have hP := h origin horigin d (digitValue?_lt hd)
  rwa [← hvalue, Point.ofNat_value] at hP

end Text

namespace Number

/-- A text of decimal digits, or the empty one. -/
def IsDigitRun (t : Text) : Prop :=
  ∀ p ∈ t, isDecimal p = true

/-- A plus, a minus or nothing. -/
def IsSign (t : Text) : Prop :=
  t = [] ∨ t = ['+'] ∨ t = ['-']

/-- A point with the digits after it, or nothing. -/
def IsFraction (t : Text) : Prop :=
  t = [] ∨ ∃ digits, t = Point.char '.' :: digits ∧ IsDigitRun digits

/-- The letter `e` with a sign and digits after it, or nothing. -/
def IsExponent (t : Text) : Prop :=
  t = [] ∨ ∃ (letter : Point) (sign digits : Text), t = letter :: sign ++ digits ∧
    (letter = 'e' ∨ letter = 'E') ∧ IsSign sign ∧ IsDigitRun digits ∧ digits ≠ []

theorem takeDigits_parts (t : Text) :
    ∃ run, t = run ++ (takeDigits t).2 ∧ IsDigitRun run ∧
      (takeDigits t).1 = run.filterMap digitValue? ∧ (takeDigits t).1.length = run.length := by
  induction t with
  | nil => exact ⟨[], by simp [takeDigits, IsDigitRun]⟩
  | cons p rest ih =>
    cases hp : digitValue? p with
    | none => exact ⟨[], by simp [takeDigits, IsDigitRun, hp]⟩
    | some d =>
      obtain ⟨run, hrest, hrun, hvalues, hlength⟩ := ih
      refine ⟨p :: run, ?_, ?_, ?_, ?_⟩
      · simpa [takeDigits, hp] using hrest
      · simpa [IsDigitRun, isDecimal, hp] using hrun
      · simp [takeDigits, hp, hvalues]
      · simp [takeDigits, hp, hlength]

/-- All decimal digits at the front are taken off. -/
theorem takeDigits_append {digits rest : Text} (h : IsDigitRun digits)
    (hrest : ∀ p ∈ rest.head?, isDecimal p = false) :
    takeDigits (digits ++ rest) = (digits.filterMap digitValue?, rest) := by
  induction digits with
  | nil =>
    cases rest with
    | nil => rfl
    | cons p rest =>
      have hnone : digitValue? p = none := by simpa [isDecimal] using hrest p (by simp)
      simp [takeDigits, hnone]
  | cons p digits ih =>
    obtain ⟨d, hd⟩ := Option.isSome_iff_exists.1 (h p (by simp))
    have hmore := ih fun q hq => h q (by simp [hq])
    simp [takeDigits, hd, hmore]

theorem takeDigits_of_isDigitRun {t : Text} (h : IsDigitRun t) :
    takeDigits t = (t.filterMap digitValue?, []) := by
  have hend : ∀ p ∈ ([] : Text).head?, isDecimal p = false := by simp
  simpa using takeDigits_append h hend

theorem takeSign_parts (t : Text) : ∃ sign, t = sign ++ (takeSign t).2 ∧ IsSign sign := by
  unfold takeSign
  split
  · exact ⟨['+'], rfl, by simp [IsSign]⟩
  · exact ⟨['-'], rfl, by simp [IsSign]⟩
  · exact ⟨[], rfl, by simp [IsSign]⟩

theorem takeFraction_parts (t : Text) :
    ∃ fraction, t = fraction ++ (takeFraction t).2 ∧ IsFraction fraction ∧
      ((takeFraction t).1.getD [] ≠ [] → 2 ≤ fraction.length) := by
  unfold takeFraction
  split
  · rename_i rest
    obtain ⟨run, hrest, hrun, hvalues, hlength⟩ := takeDigits_parts rest
    refine ⟨Point.char '.' :: run, by simp [← hrest], Or.inr ⟨run, rfl, hrun⟩, ?_⟩
    intro hne
    have hpos : 0 < (takeDigits rest).1.length := List.length_pos_iff.2 (by simpa using hne)
    simp only [List.length_cons]
    omega
  · exact ⟨[], rfl, Or.inl rfl, by simp⟩

theorem Numeral.exponentOf?_parts {t : Text} {exponent : Option Int}
    (h : exponentOf? t = some exponent) : IsExponent t := by
  cases t with
  | nil => exact Or.inl rfl
  | cons letter rest =>
    simp only [exponentOf?] at h
    split at h
    · rename_i hletter
      obtain ⟨sign, hrest, hsign⟩ := takeSign_parts rest
      obtain ⟨run, hafter, hrun, hvalues, hlength⟩ := takeDigits_parts (takeSign rest).2
      by_cases hend : (takeDigits (takeSign rest).2).1 = [] ∨ (takeDigits (takeSign rest).2).2 ≠ []
      · simp [hend] at h
      · obtain ⟨hdigits, htail⟩ := not_or.1 hend
        rw [not_not.1 htail, List.append_nil] at hafter
        refine Or.inr ⟨letter, sign, run, by rw [hrest, hafter]; rfl, hletter, hsign, hrun, ?_⟩
        rintro rfl
        exact hdigits hvalues
    · simp at h

/-- A numeral is a sign, digits, a fraction and an exponent; the digits before and after the point
are not both missing. -/
theorem Numeral.parts_of_ofText? {t : Text} {numeral : Numeral} (h : ofText? t = some numeral) :
    ∃ sign whole fraction exponent : Text, t = sign ++ whole ++ fraction ++ exponent ∧
      IsSign sign ∧ IsDigitRun whole ∧ IsFraction fraction ∧ IsExponent exponent ∧
      (whole ≠ [] ∨ 2 ≤ fraction.length) := by
  unfold ofText? at h
  obtain ⟨sign, ht, hsign⟩ := takeSign_parts t
  obtain ⟨whole, hafter, hwhole, hvalues, hlength⟩ := takeDigits_parts (takeSign t).2
  obtain ⟨fraction, hend, hfraction, hdigits⟩ := takeFraction_parts (takeDigits (takeSign t).2).2
  simp only at h
  split at h
  · simp at h
  · rename_i hsome
    obtain ⟨exponent, hexponent, -⟩ := Option.map_eq_some_iff.1 h
    refine ⟨sign, whole, fraction, _, ?_, hsign, hwhole, hfraction,
      exponentOf?_parts hexponent, ?_⟩
    · conv_lhs => rw [ht, hafter, hend]
      simp only [List.append_assoc]
    · by_cases hne : whole = []
      · subst hne
        refine Or.inr (hdigits ?_)
        simpa [hvalues] using hsome
      · exact Or.inl hne

/-- What holds of decimal digits, of signs, of the point and of the letter of an exponent holds of
everything in a numeral. -/
theorem Numeral.forall_of_ofText? {P : Point → Prop} {t : Text} {numeral : Numeral}
    (h : ofText? t = some numeral) (hdecimal : ∀ p, isDecimal p = true → P p)
    (hother : ∀ p ∈ ("+-.eE" : Text), P p) : ∀ p ∈ t, P p := by
  obtain ⟨sign, whole, fraction, exponent, rfl, hsign, hwhole, hfraction, hexponent, -⟩ :=
    Numeral.parts_of_ofText? h
  have hrun {digits : Text} (hdigits : IsDigitRun digits) : ∀ p ∈ digits, P p :=
    fun p hp => hdecimal p (hdigits p hp)
  have hsigns {sign : Text} (hsign : IsSign sign) : ∀ p ∈ sign, P p := by
    rcases hsign with rfl | rfl | rfl
    · simp
    · simpa using hother '+' (by decide)
    · simpa using hother '-' (by decide)
  intro p hp
  simp only [List.mem_append] at hp
  rcases hp with ((hp | hp) | hp) | hp
  · exact hsigns hsign p hp
  · exact hrun hwhole p hp
  · rcases hfraction with rfl | ⟨digits, rfl, hdigits⟩
    · simp at hp
    · rcases List.mem_cons.1 hp with rfl | hp
      · exact hother '.' (by decide)
      · exact hrun hdigits p hp
  · rcases hexponent with rfl | ⟨letter, sign, digits, rfl, hletter, hsign, hdigits, -⟩
    · simp at hp
    · simp only [List.cons_append, List.mem_cons, List.mem_append] at hp
      rcases hp with rfl | hp | hp
      · rcases hletter with rfl | rfl
        · exact hother 'e' (by decide)
        · exact hother 'E' (by decide)
      · exact hsigns hsign p hp
      · exact hrun hdigits p hp

/-- Digits alone are a numeral without sign, point and exponent. -/
theorem Numeral.ofText?_of_isDigitRun {t : Text} (hne : t ≠ []) (h : IsDigitRun t) :
    ofText? t = some ⟨false, t.filterMap digitValue?, none, none⟩ := by
  obtain ⟨p, rest, rfl⟩ := List.exists_cons_of_ne_nil hne
  have hp : isDecimal p = true := h p (by simp)
  obtain ⟨d, hd⟩ := Option.isSome_iff_exists.1 hp
  have hsign : takeSign (p :: rest) = (false, p :: rest) := by
    unfold takeSign
    split
    · rename_i heq
      obtain ⟨rfl, -⟩ := List.cons.inj heq
      exact absurd hp (by decide)
    · rename_i heq
      obtain ⟨rfl, -⟩ := List.cons.inj heq
      exact absurd hp (by decide)
    · rfl
  simp [ofText?, hsign, takeDigits_of_isDigitRun h, takeFraction, exponentOf?, hd]

end Number

/-! ### Values -/

theorem isBlank_of_isDecimal {p : Point} (h : isDecimal p = true) : isBlank p = false :=
  isDecimal_induction (P := fun p => isBlank p = false) (by decide +kernel) h

theorem trim_of_isDigitRun {t : Text} (h : IsDigitRun t) : trim t = t := by
  refine trim_eq_self (fun p hp => isBlank_of_isDecimal (h p ?_))
    (fun p hp => isBlank_of_isDecimal (h p ?_))
  · exact List.mem_of_mem_head? hp
  · exact List.mem_of_getLast? hp

theorem isNumeral_of_isDigitRun {t : Text} (hne : t ≠ []) (h : IsDigitRun t) :
    isNumeral t = true := by
  simp [isNumeral, numeral?, trim_of_isDigitRun h, Numeral.ofText?_of_isDigitRun hne h]

theorem numeral?_trim (t : Text) : numeral? (trim t) = numeral? t := by
  simp [numeral?]

theorem isNumeral_trim (t : Text) : isNumeral (trim t) = isNumeral t := by
  simp [isNumeral, numeral?_trim]

theorem Value.ofText_of_not_isNumeral {t : Text} (h : isNumeral t = false) :
    Value.ofText t = .text t := by
  have hnone : numeral? t = none := by simpa [isNumeral] using h
  simp [Value.ofText, hnone]

theorem Value.ofText_trim {t : Text} (h : isNumeral t = true) :
    Value.ofText (trim t) = Value.ofText t := by
  obtain ⟨numeral, hnumeral⟩ := Option.isSome_iff_exists.1 h
  simp [Value.ofText, numeral?_trim, hnumeral]

end TableQuery
