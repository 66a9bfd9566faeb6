import TableQuery.Proofs.SavedTables

/-!
# What is read can be saved

Reading joins the halves of surrogate pairs and refuses overlong integers. What was read once comes
back unchanged from then on.

* `Value.IsSettled`, `Json.IsSettled`: no overlong integer, and no pair of halves in a text.
* `readString_isPairFree`, `readScalar_isSettled`: the strings and scalars that are read.
* `ReadsSettled`, `readsSettled`: all documents that are read are settled.
* `Value.IsSettled.spelling`: settled values as identifiers.
-/

namespace TableQuery

open Number Text

/-- A value that can be saved and is read back as it is. -/
structure Value.IsSettled (value : Value) : Prop where
  storable : value.IsStorable
  pairFree : value.IsPairFree

namespace Json

/-! ### Strings -/

/-- Beyond the last code point a number stands for zero. -/
theorem value_ofNat_or (n : Nat) :
    (Point.ofNat n).value = n ∨ 0x110000 ≤ n ∧ (Point.ofNat n).value = 0 := by
  by_cases h : n < 0x110000
  · exact .inl (value_ofNat h)
  · have hhalf : ¬(0xD800 ≤ n ∧ n < 0xE000) := by omega
    have hvalid : ¬n.isValidChar := by
      unfold Nat.isValidChar
      omega
    refine .inr ⟨by omega, ?_⟩
    rw [Point.ofNat, dif_neg hhalf]
    show (Char.ofNat n).toNat = 0
    rw [Char.ofNat, dif_neg hvalid]
    rfl

theorem isPair_ofNat (high low : Nat) :
    IsPair (.ofNat high) (.ofNat low) ↔ (isHighHalf high && isLowHalf low) = true := by
  simp only [IsPair, isHighHalf, isLowHalf, Bool.and_eq_true, decide_eq_true_eq]
  rcases value_ofNat_or high with hhigh | ⟨hbeyond, hhigh⟩ <;>
    rcases value_ofNat_or low with hlow | ⟨hbeyond', hlow⟩ <;> omega

/-- The halves that are joined in code units are those that are joined in code points. -/
theorem map_joinPairs (units : List Nat) :
    (joinPairs units).map Point.ofNat = joinHalves (units.map Point.ofNat) := by
  induction units using joinPairs.induct with
  | case1 high low rest hpair ih =>
    have hjoined : joined (.ofNat high) (.ofNat low) =
        .ofNat (0x10000 + (high - 0xD800) * 0x400 + (low - 0xDC00)) := by
      simp only [isHighHalf, isLowHalf, Bool.and_eq_true, decide_eq_true_eq] at hpair
      rw [joined, value_ofNat (by omega), value_ofNat (by omega)]
    rw [joinPairs, if_pos hpair, List.map_cons, ih, List.map_cons, List.map_cons, joinHalves,
      if_pos ((isPair_ofNat high low).2 hpair), hjoined]
  | case2 high low rest hpair ih =>
    rw [joinPairs, if_neg hpair, List.map_cons, ih]
    simp only [List.map_cons]
    rw [joinHalves, if_neg (mt (isPair_ofNat high low).1 hpair)]
  | case3 units hshort =>
    rcases units with _ | ⟨unit, _ | ⟨next, rest⟩⟩
    · rfl
    · rfl
    · exact absurd rfl (hshort unit next rest)

theorem readString_isPairFree {opening t rest : Text} (h : readString opening = .ok (t, rest)) :
    IsPairFree t := by
  obtain ⟨⟨units, later⟩, -, ht⟩ := bind_eq_ok.1 h
  obtain ⟨rfl, -⟩ := Prod.mk.inj (Except.ok.inj ht)
  rw [map_joinPairs]
  exact joinHalves_isPairFree _

/-! ### Scalars -/

theorem lt_of_mem_takeAsciiDigits {t : Text} : ∀ d ∈ (takeAsciiDigits t).1, d < 10 := by
  intro d hd
  obtain ⟨p, hp, rfl⟩ := List.mem_map.1 hd
  have hdigit := List.mem_takeWhile_imp hp
  simp only [isAsciiDigit, Bool.and_eq_true, decide_eq_true_eq] at hdigit
  omega

theorem lt_of_readNumber? {t rest : Text} {numeral : Numeral}
    (h : readNumber? t = some (numeral, rest)) : ∀ d ∈ numeral.whole, d < 10 := by
  unfold readNumber? at h
  obtain ⟨-, ⟨⟩⟩ := Option.ite_none_left_eq_some.1 h
  intro d hd
  dsimp only at hd
  split at hd
  · obtain rfl := List.mem_singleton.1 hd
    decide
  · exact lt_of_mem_takeAsciiDigits d hd

theorem readScalar_isSettled {t rest : Text} {value : Value}
    (h : readScalar t = .ok (value, rest)) : value.IsSettled := by
  unfold readScalar at h
  split at h
  · rename_i found hfound
    obtain ⟨entry, hentry, hsome⟩ := List.exists_of_findSome?_eq_some hfound
    obtain ⟨later, -, hlater⟩ := Option.map_eq_some_iff.1 hsome
    obtain rfl := Except.ok.inj h
    obtain ⟨rfl, -⟩ := Prod.mk.inj hlater
    have hconstants : ∀ entry ∈ constants, entry.2.IsStorable ∧ entry.2.IsPairFree := by
      simp [constants, Value.IsStorable, Value.IsPairFree]
    exact ⟨(hconstants _ hentry).1, (hconstants _ hentry).2⟩
  · split at h
    · simp at h
    · rename_i numeral later hnumber
      obtain ⟨number, hvalue, hpair⟩ := map_eq_ok.1 h
      obtain ⟨rfl, -⟩ := Prod.mk.inj hpair
      unfold numberValue at hvalue
      split at hvalue
      · split at hvalue
        · rename_i n hn
          obtain rfl := Except.ok.inj hvalue
          exact ⟨numeral.natAbs_lt_of_toInt? (lt_of_readNumber? hnumber) hn, trivial⟩
        · simp at hvalue
      · obtain rfl := Except.ok.inj hvalue
        exact ⟨trivial, trivial⟩

/-! ### Documents -/

/-- A document that can be saved and is read back as it is, as far as its depth allows. -/
inductive IsSettled : Json → Prop
  | scalar {value : Value} (h : value.IsSettled) : IsSettled (.scalar value)
  | array {items : List Json} (h : ∀ item ∈ items, IsSettled item) : IsSettled (.array items)
  | object {fields : List (Text × Json)}
      (names : ∀ field ∈ fields, IsPairFree field.1)
      (values : ∀ field ∈ fields, IsSettled field.2) : IsSettled (.object fields)

/-- Fields with settled documents, under names that are read back as they are. -/
def AreSettled (fields : List (Text × Json)) : Prop :=
  ∀ field ∈ fields, IsPairFree field.1 ∧ field.2.IsSettled

theorem isSettled_object_iff {fields : List (Text × Json)} :
    IsSettled (.object fields) ↔ AreSettled fields := by
  constructor
  · rintro (_ | _ | ⟨hnames, hvalues⟩)
    exact fun field hfield => ⟨hnames field hfield, hvalues field hfield⟩
  · exact fun h => .object (fun field hfield => (h field hfield).1)
      fun field hfield => (h field hfield).2

/-- All that is read within some bound on the steps is settled. -/
structure ReadsSettled (fuel : Nat) : Prop where
  value : ∀ {levels t json rest}, readValue fuel levels t = .ok (json, rest) → json.IsSettled
  items : ∀ {levels t items rest}, readItems fuel levels t = .ok (items, rest) →
    ∀ item ∈ items, IsSettled item
  fields : ∀ {levels before t fields rest}, readFields fuel levels before t = .ok (fields, rest) →
    AreSettled before → AreSettled fields

namespace ReadsSettled

variable {fuel levels : Nat} {t rest : Text}

theorem zero : ReadsSettled 0 := by
  constructor
  · intro levels t json rest h
    simp [readValue] at h
  · intro levels t items rest h
    simp [readItems] at h
  · intro levels before t fields rest h
    simp [readFields] at h

theorem value_succ (ih : ReadsSettled fuel) {json : Json}
    (h : readValue (fuel + 1) levels t = .ok (json, rest)) : json.IsSettled := by
  unfold readValue at h
  split at h
  · obtain ⟨⟨text, later⟩, htext, ⟨⟩⟩ := bind_eq_ok.1 h
    exact .scalar ⟨trivial, readString_isPairFree htext⟩
  · split at h
    · simp at h
    · split at h
      · obtain ⟨⟩ := h
        exact .array (List.forall_mem_nil _)
      · obtain ⟨⟨items, later⟩, hitems, ⟨⟩⟩ := bind_eq_ok.1 h
        exact .array (ih.items hitems)
  · split at h
    · simp at h
    · split at h
      · obtain ⟨⟩ := h
        exact isSettled_object_iff.2 (List.forall_mem_nil _)
      · obtain ⟨⟨fields, later⟩, hfields, ⟨⟩⟩ := bind_eq_ok.1 h
        exact isSettled_object_iff.2 (ih.fields hfields (List.forall_mem_nil _))
  · obtain ⟨⟨value, later⟩, hvalue, ⟨⟩⟩ := bind_eq_ok.1 h
    exact .scalar (readScalar_isSettled hvalue)

theorem items_succ (ih : ReadsSettled fuel) {items : List Json}
    (h : readItems (fuel + 1) levels t = .ok (items, rest)) : ∀ item ∈ items, IsSettled item := by
  unfold readItems at h
  obtain ⟨⟨item, later⟩, hitem, hrest⟩ := bind_eq_ok.1 h
  have hfirst := ih.value hitem
  dsimp only at hrest
  split at hrest
  · obtain ⟨⟩ := hrest
    exact List.forall_mem_singleton.2 hfirst
  · obtain ⟨⟨more, last⟩, hmore, ⟨⟩⟩ := bind_eq_ok.1 hrest
    exact List.forall_mem_cons.2 ⟨hfirst, ih.items hmore⟩
  · simp at hrest

theorem fields_succ (ih : ReadsSettled fuel) {before fields : List (Text × Json)}
    (h : readFields (fuel + 1) levels before t = .ok (fields, rest))
    (hbefore : AreSettled before) : AreSettled fields := by
  unfold readFields at h
  split at h
  · obtain ⟨⟨name, afterName⟩, hname, hcolon⟩ := bind_eq_ok.1 h
    dsimp only at hcolon
    split at hcolon
    · obtain ⟨⟨value, later⟩, hvalue, hrest⟩ := bind_eq_ok.1 hcolon
      have hinsert : AreSettled (Fields.insert name value before) := by
        intro field hfield
        rcases Fields.eq_or_mem_of_mem_insert hfield with rfl | hold
        · exact ⟨readString_isPairFree hname, ih.value hvalue⟩
        · exact hbefore field hold
      dsimp only at hrest
      split at hrest
      · obtain ⟨⟩ := hrest
        exact hinsert
      · exact ih.fields hrest hinsert
      · simp at hrest
    · simp at hcolon
  · simp at h

end ReadsSettled

theorem readsSettled (fuel : Nat) : ReadsSettled fuel := by
  induction fuel with
  | zero => exact .zero
  | succ fuel ih => exact ⟨ih.value_succ, ih.items_succ, ih.fields_succ⟩

/-- Whatever a text says, its document is settled. -/
theorem isSettled_of_read {text : Text} {json : Json} (h : read text = .ok json) :
    json.IsSettled := by
  rw [read, mapError_eq_ok, readAll] at h
  split at h
  · simp at h
  · obtain ⟨⟨document, rest⟩, hdocument, hend⟩ := bind_eq_ok.1 h
    dsimp only at hend
    split at hend
    · obtain ⟨⟩ := hend
      exact (readsSettled _).value hdocument
    · simp at hend

end Json

/-! ### Identifiers -/

theorem Number.WrittenNumber.text_ne_nil {number : WrittenNumber} (h : number.IsProper) :
    number.text ≠ [] := by
  obtain ⟨c, more, -, htext⟩ := number.text_front h
  rw [htext]
  exact List.append_ne_nil_of_right_ne_nil _ (List.cons_ne_nil _ _)

theorem isPairFree_of_plain {t : Text} (h : ∀ p ∈ t, IsPlain p) : Json.IsPairFree t := by
  refine (List.pairwise_of_forall_mem_list fun p hp q _ hpair => ?_).isChain
  have hhigh := hpair.1
  have hlow := (h p hp).2
  simp only [Json.isHighHalf, Bool.and_eq_true, decide_eq_true_eq] at hhigh
  omega

namespace Value

variable {value : Value}

/-- The text of a number is a word in printed ASCII. -/
theorem spelling_of_isNumber (value : Value) (h : value.isNumber = true) :
    value.spelling ≠ [] ∧ ∀ p ∈ value.spelling, IsPlain p := by
  have hwritten {number : WrittenNumber} (hproper : number.IsProper)
      (htext : number.text = value.spelling) :
      value.spelling ≠ [] ∧ ∀ p ∈ value.spelling, IsPlain p := by
    rw [← htext]
    exact ⟨number.text_ne_nil hproper, number.text_plain hproper⟩
  cases value with
  | null | bool | text => simp [isNumber] at h
  | int n => exact hwritten (writtenInteger_isProper n) (text_writtenInteger n)
  | float x =>
    cases x with
    | nan => decide
    | infinite negative => cases negative <;> decide
    | finite negative units fits =>
      obtain ⟨number, hproper, -, htext, -⟩ := exists_written_double negative fits
      exact hwritten hproper htext

theorem IsSettled.spelling (h : value.IsSettled) : Json.IsPairFree value.spelling := by
  cases value with
  | null => decide
  | bool b => cases b <;> decide
  | int n => exact isPairFree_of_plain (spelling_of_isNumber (.int n) rfl).2
  | float x => exact isPairFree_of_plain (spelling_of_isNumber (.float x) rfl).2
  | text t => exact h.pairFree

/-- A given identifier is not empty. -/
theorem spelling_ne_nil (h : value.isTruthy = true) : value.spelling ≠ [] := by
  cases value with
  | null => simp [isTruthy] at h
  | bool b => cases b <;> decide
  | int n => exact (spelling_of_isNumber (.int n) rfl).1
  | float x => exact (spelling_of_isNumber (.float x) rfl).1
  | text t =>
    show t ≠ []
    simpa [isTruthy] using h

end Value

end TableQuery
