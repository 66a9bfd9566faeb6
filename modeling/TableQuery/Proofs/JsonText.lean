import Mathlib.Data.List.Chain
import TableQuery.Json.Reader
import TableQuery.Json.Writer

/-!
# Strings that are written and read again

A string is written in code units, and two halves of a surrogate pair that stand side by side are
read as the one character that they make.

* `pointUnits`: the code units of a code point.
* `joinHalves`: a text with its pairs of halves joined.
* `IsPairFree`: a text without such pairs.
* `readString_writeString`: a string comes back with its halves joined.
* `joinHalves_eq_self_iff`: just the texts without pairs come back as they are.
-/

namespace TableQuery.Json

open Text

/-! ### Hexadecimal digits -/

theorem hexValue?_hexDigit {d : Nat} (hd : d < 16) : hexValue? (hexDigit d) = some d := by
  revert d
  decide

theorem codeUnit?_hex {n : Nat} (hn : n < 0x10000) :
    codeUnit? (hexDigit (n / 16 / 16 / 16 % 16)) (hexDigit (n / 16 / 16 % 16))
      (hexDigit (n / 16 % 16)) (hexDigit (n % 16)) = some n := by
  have hdigit (m : Nat) : hexValue? (hexDigit (m % 16)) = some (m % 16) :=
    hexValue?_hexDigit (Nat.mod_lt _ (by decide))
  simp only [codeUnit?, hdigit, Option.bind_eq_bind, Option.bind_some, Option.pure_def,
    Option.some.injEq]
  omega

theorem hex_four (n : Nat) :
    hex 4 n = [hexDigit (n / 16 / 16 / 16 % 16), hexDigit (n / 16 / 16 % 16),
      hexDigit (n / 16 % 16), hexDigit (n % 16)] := rfl

/-! ### Code units -/

/-- The code units of a code point: two beyond the basic plane. -/
def pointUnits (p : Point) : List Nat :=
  if p.value < 0x10000 then [p.value]
  else [0xD800 + (p.value - 0x10000) / 0x400, 0xDC00 + (p.value - 0x10000) % 0x400]

theorem value_lt (p : Point) : p.value < 0x110000 := by
  cases p with
  | char c =>
    have hc : c.toNat < 0xD800 ∨ 0xDFFF < c.toNat ∧ c.toNat < 0x110000 := c.valid
    simp only [Point.value]
    omega
  | half h =>
    have := h.isHalf
    simp only [Point.value]
    omega

variable {opening rest after : Text} {units : List Nat}

theorem readUnits_plain {p : Point} (hquote : p ≠ '"') (hslash : p ≠ '\\') (hlow : 0x20 ≤ p.value)
    (h : readUnits opening rest = .ok (units, after)) :
    readUnits opening (p :: rest) = .ok (p.value :: units, after) := by
  have hcontrol : ¬p.value < 0x20 := by omega
  rw [readUnits.eq_def]
  split
  · simp_all
  · simp_all
  · simp_all
  · rename_i heq
    obtain ⟨rfl, rfl⟩ := List.cons.inj heq
    simp [hcontrol, h]

theorem readUnits_escape {p q : Point} (hp : escaped? p = some q)
    (h : readUnits opening rest = .ok (units, after)) :
    readUnits opening ('\\' :: p :: rest) = .ok (q.value :: units, after) := by
  have hu : p ≠ 'u' := by
    rintro rfl
    simp [escaped?] at hp
  rw [readUnits.eq_def]
  simp only
  split
  · simp_all
  · rename_i heq
    exact absurd (List.cons.inj heq).1 hu
  · rename_i heq
    exact absurd (List.cons.inj heq).1 hu
  · rename_i heq
    obtain ⟨rfl, rfl⟩ := List.cons.inj heq
    simp [hp, h]

theorem readUnits_unicodeEscape {unit : Nat} (hunit : unit < 0x10000)
    (h : readUnits opening rest = .ok (units, after)) :
    readUnits opening (unicodeEscape unit ++ rest) = .ok (unit :: units, after) := by
  cases rest with
  | nil => simp [readUnits] at h
  | cons next rest =>
    show readUnits opening (.char '\\' :: .char 'u' :: (hex 4 unit ++ next :: rest)) = _
    rw [hex_four]
    simp only [List.cons_append, List.nil_append]
    rw [readUnits.eq_def]
    simp [codeUnit?_hex hunit, h]

/-- A written code point is read as its code units. -/
theorem readUnits_writePoint {p : Point} (h : readUnits opening rest = .ok (units, after)) :
    readUnits opening (writePoint p ++ rest) = .ok (pointUnits p ++ units, after) := by
  -- each branch of the writer has its own escape, and the reader undoes it
  have hbasic (hp : p.value < 0x10000) : pointUnits p = [p.value] := by rw [pointUnits, if_pos hp]
  unfold writePoint
  by_cases hsame : (p = '"' || p = '\\') = true
  · have hescaped : escaped? p = some p := by
      simp only [Bool.or_eq_true, decide_eq_true_eq] at hsame
      rcases hsame with rfl | rfl <;> rfl
    have hp : p.value < 0x10000 := by
      simp only [Bool.or_eq_true, decide_eq_true_eq] at hsame
      rcases hsame with rfl | rfl <;> decide
    rw [if_pos hsame, hbasic hp]
    exact readUnits_escape hescaped h
  rw [if_neg hsame]
  by_cases hn : p = '\n'
  · subst hn
    exact readUnits_escape (p := 'n') rfl h
  rw [if_neg hn]
  by_cases hr : p = '\r'
  · subst hr
    exact readUnits_escape (p := 'r') rfl h
  rw [if_neg hr]
  by_cases ht : p = '\t'
  · subst ht
    exact readUnits_escape (p := 't') rfl h
  rw [if_neg ht]
  by_cases hb : p = '\x08'
  · subst hb
    exact readUnits_escape (p := 'b') rfl h
  rw [if_neg hb]
  by_cases hf : p = '\x0c'
  · subst hf
    exact readUnits_escape (p := 'f') rfl h
  rw [if_neg hf]
  by_cases hplain : 0x20 ≤ p.value ∧ p.value ≤ 0x7E
  · rw [if_pos hplain, hbasic (by omega)]
    simp only [Bool.or_eq_true, decide_eq_true_eq, not_or] at hsame
    exact readUnits_plain hsame.1 hsame.2 hplain.1 h
  rw [if_neg hplain]
  by_cases hp : p.value < 0x10000
  · rw [if_pos hp, hbasic hp]
    exact readUnits_unicodeEscape hp h
  · have hlt := value_lt p
    rw [if_neg hp, pointUnits, if_neg hp, List.append_assoc]
    exact readUnits_unicodeEscape (by omega) (readUnits_unicodeEscape (by omega) h)

theorem readUnits_write (t : Text) :
    readUnits opening (t.flatMap writePoint ++ .char '"' :: rest) =
      .ok (t.flatMap pointUnits, rest) := by
  induction t with
  | nil => simp [readUnits]
  | cons p t ih =>
    rw [List.flatMap_cons, List.flatMap_cons, List.append_assoc]
    exact readUnits_writePoint ih

/-! ### Pairs of halves -/

/-- Two code points that make one character when they are read. -/
def IsPair (p q : Point) : Prop :=
  isHighHalf p.value = true ∧ isLowHalf q.value = true

instance (p q : Point) : Decidable (IsPair p q) :=
  inferInstanceAs (Decidable (_ ∧ _))

/-- The character that a pair makes. -/
def joined (p q : Point) : Point :=
  .ofNat (0x10000 + (p.value - 0xD800) * 0x400 + (q.value - 0xDC00))

/-- A text with each of its pairs as one character. -/
def joinHalves : Text → Text
  | p :: q :: rest =>
    if IsPair p q then joined p q :: joinHalves rest else p :: joinHalves (q :: rest)
  | t => t

/-- No half is followed by one that makes a pair with it. -/
def IsPairFree (t : Text) : Prop :=
  t.IsChain fun p q => ¬IsPair p q

instance (t : Text) : Decidable (IsPairFree t) :=
  inferInstanceAs (Decidable (t.IsChain fun p q => ¬IsPair p q))

/-- A single code point makes no pair. -/
theorem joinHalves_of_short {t : Text} (h : ∀ p q rest, t = p :: q :: rest → False) :
    joinHalves t = t ∧ IsPairFree t := by
  match t, h with
  | [], _ => simp [joinHalves, IsPairFree]
  | [p], _ => simp [joinHalves, IsPairFree]
  | p :: q :: rest, h => exact absurd rfl (h p q rest)

theorem joinPairs_pair {high low : Nat} {units : List Nat} (hhigh : isHighHalf high = true)
    (hlow : isLowHalf low = true) :
    joinPairs (high :: low :: units) =
      (0x10000 + (high - 0xD800) * 0x400 + (low - 0xDC00)) :: joinPairs units := by
  rw [joinPairs, hhigh, hlow]
  rfl

/-- The units of a code point that makes no pair with what follows stay apart from that. -/
theorem joinPairs_pointUnits {p : Point} {units : List Nat}
    (h : ∀ unit ∈ units.head?, ¬(isHighHalf p.value = true ∧ isLowHalf unit = true)) :
    joinPairs (pointUnits p ++ units) = p.value :: joinPairs units := by
  unfold pointUnits
  split
  · cases units with
    | nil => rfl
    | cons unit units =>
      have hnot := h unit rfl
      rw [← Bool.and_eq_true] at hnot
      rw [List.singleton_append, joinPairs, if_neg hnot]
  · have hlt := value_lt p
    have hhigh : isHighHalf (0xD800 + (p.value - 0x10000) / 0x400) = true := by
      simp only [isHighHalf, Bool.and_eq_true, decide_eq_true_eq]
      omega
    have hlow : isLowHalf (0xDC00 + (p.value - 0x10000) % 0x400) = true := by
      simp only [isLowHalf, Bool.and_eq_true, decide_eq_true_eq]
      omega
    have hvalue : 0x10000 + (0xD800 + (p.value - 0x10000) / 0x400 - 0xD800) * 0x400 +
        (0xDC00 + (p.value - 0x10000) % 0x400 - 0xDC00) = p.value := by omega
    rw [List.cons_append, List.singleton_append, joinPairs_pair hhigh hlow, hvalue]

theorem isLowHalf_head {t : Text} {p : Point} {unit : Nat}
    (hunit : unit ∈ ((p :: t).flatMap pointUnits).head?) (hlow : isLowHalf unit = true) :
    isLowHalf p.value = true := by
  unfold pointUnits at hunit
  rw [List.flatMap_cons] at hunit
  split at hunit
  · obtain rfl : p.value = unit := by simpa using hunit
    exact hlow
  · have hlt := value_lt p
    obtain rfl : 0xD800 + (p.value - 0x10000) / 0x400 = unit := by simpa using hunit
    simp only [isLowHalf, Bool.and_eq_true, decide_eq_true_eq] at hlow
    omega

theorem joinPairs_flatMap (t : Text) :
    (joinPairs (t.flatMap pointUnits)).map Point.ofNat = joinHalves t := by
  induction t using joinHalves.induct with
  | case1 p q rest hpair ih =>
    obtain ⟨hp, hq⟩ := hpair
    have hunits (r : Point) (hr : r.value < 0x10000) : pointUnits r = [r.value] := by
      rw [pointUnits, if_pos hr]
    have hplt : p.value < 0x10000 := by
      simp only [isHighHalf, Bool.and_eq_true, decide_eq_true_eq] at hp
      omega
    have hqlt : q.value < 0x10000 := by
      simp only [isLowHalf, Bool.and_eq_true, decide_eq_true_eq] at hq
      omega
    rw [List.flatMap_cons, List.flatMap_cons, hunits p hplt, hunits q hqlt, List.singleton_append,
      List.singleton_append, joinPairs_pair hp hq, List.map_cons, ih, joinHalves, if_pos ⟨hp, hq⟩]
    rfl
  | case2 p q rest hpair ih =>
    -- a character beyond the basic plane starts with a high half, which makes no pair with `p`
    have hnot : ∀ unit ∈ ((q :: rest).flatMap pointUnits).head?,
        ¬(isHighHalf p.value = true ∧ isLowHalf unit = true) :=
      fun unit hunit hboth => hpair ⟨hboth.1, isLowHalf_head hunit hboth.2⟩
    rw [List.flatMap_cons, joinPairs_pointUnits hnot, List.map_cons, ih, Point.ofNat_value,
      joinHalves, if_neg hpair]
  | case3 t hshort =>
    match t, hshort with
    | [], _ => rfl
    | [p], _ =>
      have hone : joinPairs (pointUnits p ++ []) = p.value :: joinPairs [] :=
        joinPairs_pointUnits (by simp)
      rw [List.flatMap_cons, List.flatMap_nil, hone]
      simp [joinPairs, joinHalves, Point.ofNat_value]
    | p :: q :: rest, hshort => exact absurd rfl (hshort p q rest)

theorem readString_writeString (t rest : Text) :
    readString (writeString t ++ rest) = .ok (joinHalves t, rest) := by
  have hopening : writeString t ++ rest =
      .char '"' :: (t.flatMap writePoint ++ .char '"' :: rest) := by
    simp [writeString, ofString]
  rw [hopening, readString, List.drop_one, List.tail_cons, readUnits_write, ← joinPairs_flatMap]
  rfl

theorem length_joinHalves_le (t : Text) : (joinHalves t).length ≤ t.length := by
  induction t using joinHalves.induct with
  | case1 p q rest hpair ih =>
    rw [joinHalves, if_pos hpair]
    simp only [List.length_cons]
    omega
  | case2 p q rest hpair ih =>
    rw [joinHalves, if_neg hpair]
    simpa using ih
  | case3 t hshort => rw [(joinHalves_of_short hshort).1]

/-- Just the texts without pairs stay as they are. -/
theorem joinHalves_eq_self_iff {t : Text} : joinHalves t = t ↔ IsPairFree t := by
  induction t using joinHalves.induct with
  | case1 p q rest hpair ih =>
    rw [joinHalves, if_pos hpair]
    refine ⟨fun h => ?_, fun h => absurd hpair (List.isChain_cons_cons.1 h).1⟩
    have hlength := congrArg List.length h
    have hle := length_joinHalves_le rest
    simp only [List.length_cons] at hlength
    omega
  | case2 p q rest hpair ih =>
    rw [joinHalves, if_neg hpair, List.cons.injEq, ih]
    exact ⟨fun h => List.isChain_cons_cons.2 ⟨hpair, h.2⟩,
      fun h => ⟨rfl, (List.isChain_cons_cons.1 h).2⟩⟩
  | case3 t hshort =>
    obtain ⟨hsame, hfree⟩ := joinHalves_of_short hshort
    exact iff_of_true hsame hfree

theorem value_ofNat {n : Nat} (h : n < 0x110000) : (Point.ofNat n).value = n := by
  unfold Point.ofNat
  split
  · rfl
  · rename_i hnot
    have hvalid : n.isValidChar := by
      unfold Nat.isValidChar
      omega
    show (Char.ofNat n).toNat = n
    rw [Char.ofNat, dif_pos hvalid]
    rfl

/-- What a pair makes is no half. -/
theorem value_joined {p q : Point} (h : IsPair p q) : 0x10000 ≤ (joined p q).value := by
  obtain ⟨hp, hq⟩ := h
  simp only [isHighHalf, isLowHalf, Bool.and_eq_true, decide_eq_true_eq] at hp hq
  rw [joined, value_ofNat (by omega)]
  omega

theorem joinHalves_isPairFree (t : Text) : IsPairFree (joinHalves t) := by
  induction t using joinHalves.induct with
  | case1 p q rest hpair ih =>
    rw [joinHalves, if_pos hpair]
    refine List.isChain_cons.2 ⟨fun next _ hnext => ?_, ih⟩
    have hvalue := value_joined hpair
    have hhigh := hnext.1
    simp only [isHighHalf, Bool.and_eq_true, decide_eq_true_eq] at hhigh
    omega
  | case2 p q rest hpair ih =>
    rw [joinHalves, if_neg hpair]
    refine List.isChain_cons.2 ⟨fun next hnext hboth => ?_, ih⟩
    -- what follows starts with `q` or with a joined pair
    cases rest with
    | nil =>
      obtain rfl : q = next := by simpa [joinHalves] using hnext
      exact hpair hboth
    | cons r rest =>
      rw [joinHalves] at hnext
      split at hnext
      · rename_i hjoined
        obtain rfl : joined q r = next := by simpa using hnext
        have hvalue := value_joined hjoined
        have hlow := hboth.2
        simp only [isLowHalf, Bool.and_eq_true, decide_eq_true_eq] at hlow
        omega
      · obtain rfl : q = next := by simpa using hnext
        exact hpair hboth
  | case3 t hshort =>
    obtain ⟨hsame, hfree⟩ := joinHalves_of_short hshort
    rw [hsame]
    exact hfree

end TableQuery.Json
