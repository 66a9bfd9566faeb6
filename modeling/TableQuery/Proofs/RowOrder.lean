import Mathlib
import TableQuery.Proofs.Sorting
import TableQuery.Proofs.StableSorting
import TableQuery.Proofs.StoredTexts

/-!
# Rows in order

`ORDER BY` compares two texts as texts and any other pair as numbers; a pair without an order counts
as level. So the comparison is that of keys only where a column holds nothing but texts, or nothing
but numbers.

* `SortOrder.exists_arrange_of_sortKey`: it succeeds if every row can be compared.
* `SortOrder.arrange_is_stable`: it loses no row, and sorts texts, or numbers, stably.
* `SortOrder.arrange_sorts_between_gaps`: where rows lack the column, the numbers between two such
  rows are in order, and all of them are if the gaps come first or last.
-/

namespace TableQuery

open Number Text
open List (Forall₂)

/-! ### Comparisons -/

theorem comesBefore_eq_ok {column : Text} {a b : Row} {reply : Bool} :
    comesBefore column a b = .ok reply ↔
      ∃ o, compareForOrder (a.get column) (b.get column) = .ok o ∧ (o == .lt) = reply := by
  simp [comesBefore, bind_eq_ok]

theorem compareForOrder_eq_ok {a b : Value} {o : Ordering} :
    compareForOrder a b = .ok o ↔
      ∃ left right, sortKey a = .ok left ∧ sortKey b = .ok right ∧ left.compare right = o := by
  simp [compareForOrder, bind_eq_ok]

theorem compareTexts_eq_cmp (s t : Text) :
    compareTexts s t = cmp (s.map Point.value) (t.map Point.value) := by
  simp only [compareTexts, cmp, cmpUsing]

/-- The place of an exact number among the integers with two ends. -/
def Number.Extended.height : Extended → WithBot (WithTop ℤ)
  | .minusInfinity => ⊥
  | .finite units => ((units : WithTop ℤ) : WithBot (WithTop ℤ))
  | .plusInfinity => ((⊤ : WithTop ℤ) : WithBot (WithTop ℤ))

theorem Number.Extended.lt_iff_height_lt (a b : Extended) :
    a.lt b = true ↔ a.height < b.height := by
  cases a <;> cases b
  case finite.plusInfinity units =>
    exact iff_of_true rfl (WithBot.coe_lt_coe.2 (WithTop.coe_lt_top units))
  all_goals simp [lt, height]

theorem compareNumbers_eq_cmp (a b : Extended) :
    compareNumbers (some a) (some b) = cmp a.height b.height := by
  simp only [compareNumbers, cmp, cmpUsing, Number.Extended.lt_iff_height_lt]

/-! ### Keys -/

theorem sortKey_of_isDoubleInteger {n : Int} (h : IsDoubleInteger n) :
    sortKey (.int n) = .ok ⟨none, some (.ofInt n)⟩ := by
  obtain ⟨x, hx, hplace⟩ := Value.number_of_isDoubleInteger h
  simp only [sortKey, hx, ok_bind, hplace]
  rfl

theorem sortKey_null : sortKey .null = .ok ⟨none, none⟩ := rfl

theorem SortKey.compare_none (key : SortKey) :
    SortKey.compare ⟨none, none⟩ key = .eq ∧ key.compare ⟨none, none⟩ = .eq := by
  obtain ⟨text?, number?⟩ := key
  cases text? <;> cases number? <;> exact ⟨rfl, rfl⟩

/-- The sort key of a text, by code points. -/
def pointsKey (value : Value) : List Nat :=
  match value with
  | .text t => t.map Point.value
  | _ => []

theorem compareForOrder_text (s t : Text) :
    compareForOrder (.text s) (.text t) =
      .ok (cmp (pointsKey (.text s)) (pointsKey (.text t))) :=
  congrArg Except.ok (compareTexts_eq_cmp s t)

/-- The sort key of a number, on the integers with two ends. -/
def numberKey (value : Value) : WithBot (WithTop ℤ) :=
  match sortKey value with
  | .ok ⟨_, some place⟩ => place.height
  | _ => ⊥

theorem Value.toDouble?_of_number {value : Value} {x : Double} (h : value.number = .ok x) :
    value.toDouble? = some x := by
  unfold Value.number at h
  cases hdouble : value.toDouble? with
  | none => simp [hdouble] at h
  | some y => simpa [hdouble] using h

theorem exists_extended?_of_ofInt? {n : Int} {x : Double} (h : Double.ofInt? n = some x) :
    ∃ number, x.extended? = some number := by
  unfold Double.ofInt? at h
  generalize Double.ofQuotient (decide (n < 0)) (n.natAbs * one) 1 = nearest at h
  cases nearest with
  | nan | infinite => simp [Double.finite?] at h
  | finite negative units fits =>
    obtain rfl := Option.some.inj h
    exact ⟨_, rfl⟩

/-- A truth value, an integer or a double that is not a NaN. -/
def IsOrderedNumber : Value → Prop
  | .bool _ | .int _ => True
  | .float x => x.extended?.isSome = true
  | .null | .text _ => False

theorem sortKey_of_isOrderedNumber {value : Value} {key : SortKey} (hvalue : IsOrderedNumber value)
    (hkey : sortKey value = .ok key) : ∃ number, key = ⟨none, some number⟩ := by
  obtain ⟨x, hx, hok⟩ := bind_eq_ok.1 hkey
  have hdouble := Value.toDouble?_of_number hx
  obtain rfl := Except.ok.inj hok
  cases value with
  | null | text => exact hvalue.elim
  | bool b =>
    obtain rfl := Option.some.inj hdouble
    cases b <;> exact ⟨_, rfl⟩
  | int n =>
    obtain ⟨number, hnumber⟩ := exists_extended?_of_ofInt? hdouble
    exact ⟨number, congrArg (SortKey.mk none) hnumber⟩
  | float y =>
    obtain rfl := Option.some.inj hdouble
    obtain ⟨number, hnumber⟩ := Option.isSome_iff_exists.1 hvalue
    exact ⟨number, congrArg (SortKey.mk none) hnumber⟩

theorem compareForOrder_number {a b : Value} {o : Ordering} (ha : IsOrderedNumber a)
    (hb : IsOrderedNumber b) (h : compareForOrder a b = .ok o) :
    o = cmp (numberKey a) (numberKey b) := by
  obtain ⟨left, right, hleft, hright, rfl⟩ := compareForOrder_eq_ok.1 h
  obtain ⟨n, rfl⟩ := sortKey_of_isOrderedNumber ha hleft
  obtain ⟨m, rfl⟩ := sortKey_of_isOrderedNumber hb hright
  rw [numberKey, numberKey, hleft, hright]
  exact compareNumbers_eq_cmp n m

/-! ### Ordering -/

namespace SortOrder

variable {order : SortOrder} {rows sorted : List Row}

/-- Where every two of several rows can be compared, each of them has a sort key. -/
theorem exists_sortKey {column : Text} (hlong : 1 < rows.length)
    (h : rows.Pairwise fun a b => ∃ o, compareForOrder (a.get column) (b.get column) = .ok o) :
    ∀ row ∈ rows, ∃ key, sortKey (row.get column) = .ok key := by
  match rows with
  | [] | [_] => simp at hlong
  | a :: b :: rest =>
    -- the first row is compared with the second, and every other row with the first
    have hfirst := (List.pairwise_cons.1 h).1
    refine List.forall_mem_cons.2 ⟨?_, fun row hrow => ?_⟩
    · obtain ⟨o, ho⟩ := hfirst b List.mem_cons_self
      obtain ⟨left, _, hleft, -⟩ := compareForOrder_eq_ok.1 ho
      exact ⟨left, hleft⟩
    · obtain ⟨o, ho⟩ := hfirst row hrow
      obtain ⟨_, right, -, hright, -⟩ := compareForOrder_eq_ok.1 ho
      exact ⟨right, hright⟩

theorem exists_arrange_of_sortKey
    (h : ∀ row ∈ rows, ∃ key, sortKey (row.get order.column) = .ok key) :
    ∃ sorted, order.arrange rows = .ok sorted := by
  obtain ⟨sorted, hsorted, -⟩ | ⟨e, a, b, -, hpair, herror⟩ :=
    Sorting.sort_cases (comesBefore order.column) order.descending rows
  · exact ⟨sorted, hsorted⟩
  · obtain ⟨ha, hb, -⟩ := Sorting.mem_of_pair hpair
    obtain ⟨left, hleft⟩ := h a ha
    obtain ⟨right, hright⟩ := h b hb
    have hcompare := compareForOrder_eq_ok.2 ⟨left, right, hleft, hright, rfl⟩
    simp [comesBefore, hcompare] at herror

theorem arrange_perm (h : order.arrange rows = .ok sorted) : sorted.Perm rows :=
  Sorting.sort_perm h

/-! ### Stability -/

/-- A row may stand somewhere before another one. -/
def Allows (order : SortOrder) (a b : Row) : Prop :=
  ∃ o, compareForOrder (a.get order.column) (b.get order.column) = .ok o ∧
    o ≠ if order.descending then .lt else .gt

/-- Whether two rows are level. -/
def isLevel (order : SortOrder) (a b : Row) : Bool :=
  decide (compareForOrder (a.get order.column) (b.get order.column) = .ok .eq)

/-- Rows that are compared by keys are sorted stably. -/
theorem stable_of_cmp {κ : Type} [LinearOrder κ] (key : Row → κ)
    (hkey : ∀ a ∈ rows, ∀ b ∈ rows,
      compareForOrder (a.get order.column) (b.get order.column) = .ok (cmp (key a) (key b)))
    (h : order.arrange rows = .ok sorted) :
    sorted.Pairwise order.Allows ∧
      ∀ row ∈ rows, sorted.filter (order.isLevel row) = rows.filter (order.isLevel row) := by
  have hmem {row : Row} : row ∈ sorted → row ∈ rows := (arrange_perm h).mem_iff.1
  have hlevel : ∀ a ∈ rows, ∀ b ∈ rows, order.isLevel a b = decide (key b = key a) := by
    intro a ha b hb
    rw [isLevel, hkey a ha b hb]
    exact decide_eq_decide.2 (by rw [Except.ok.injEq, cmp_eq_eq_iff, eq_comm])
  obtain ⟨hpairs, hfilter⟩ := Sorting.sort_stable h fun a ha b hb reply hreply => by
    obtain ⟨o, ho, rfl⟩ := comesBefore_eq_ok.1 hreply
    obtain rfl := Except.ok.inj ((hkey a ha b hb).symm.trans ho)
    rw [beq_eq_decide]
    exact decide_eq_decide.2 (cmp_eq_lt_iff _ _)
  refine ⟨hpairs.imp_of_mem fun {a b} ha hb hle => ⟨_, hkey a (hmem ha) b (hmem hb), ?_⟩, ?_⟩
  · cases hdescending : order.descending with
    | false => simpa [hdescending, cmp_eq_gt_iff] using hle
    | true => simpa [hdescending, cmp_eq_lt_iff] using hle
  · intro row hrow
    rw [List.filter_congr fun other hother => hlevel row hrow other (hmem hother),
      List.filter_congr fun other hother => hlevel row hrow other hother]
    exact hfilter (key row)

/-- If no comparison of two rows fails, rows are ordered without a failure, and the result is a
rearrangement of them. If the column holds nothing but texts, or nothing but numbers, no row comes
after one that it precedes, and rows that are level keep their order. -/
theorem arrange_is_stable
    (h : rows.Pairwise fun a b =>
      ∃ o, compareForOrder (a.get order.column) (b.get order.column) = .ok o) :
    ∃ sorted, order.arrange rows = .ok sorted ∧ sorted.Perm rows ∧
      ((∀ row ∈ rows, ∃ t, row.get order.column = .text t) ∨
          (∀ row ∈ rows, IsOrderedNumber (row.get order.column)) →
        sorted.Pairwise order.Allows ∧
          ∀ row ∈ rows, sorted.filter (order.isLevel row) = rows.filter (order.isLevel row)) := by
  by_cases hshort : rows.length ≤ 1
  · refine ⟨rows, Sorting.sort_of_length_le_one hshort, .refl rows,
      fun _ => ⟨?_, fun _ _ => rfl⟩⟩
    match rows with
    | [] => exact .nil
    | [row] => exact List.pairwise_singleton _ row
    | a :: b :: rest => simp at hshort
  have hkeys := exists_sortKey (Nat.lt_of_not_le hshort) h
  obtain ⟨sorted, hsorted⟩ := exists_arrange_of_sortKey hkeys
  refine ⟨sorted, hsorted, arrange_perm hsorted, ?_⟩
  rintro (htexts | hnumbers)
  · refine stable_of_cmp (fun row => pointsKey (row.get order.column)) (fun a ha b hb => ?_) hsorted
    obtain ⟨s, hs⟩ := htexts a ha
    obtain ⟨t, ht⟩ := htexts b hb
    rw [hs, ht, compareForOrder_text]
    congr
  · refine stable_of_cmp (fun row => numberKey (row.get order.column)) (fun a ha b hb => ?_) hsorted
    obtain ⟨left, hleft⟩ := hkeys a ha
    obtain ⟨right, hright⟩ := hkeys b hb
    have hcompare := compareForOrder_eq_ok.2 ⟨left, right, hleft, hright, rfl⟩
    rw [← compareForOrder_number (hnumbers a ha) (hnumbers b hb) hcompare]
    exact hcompare

theorem arrange_is_stable_beyond_doubles :
    let row (id : Text) (size : Value) : Row := ⟨id, .ofList [("size", size)]⟩
    let order : SortOrder := ⟨"size", true⟩
    let rows : List Row := [row "a" (.int 9007199254740993), row "b" (.float .zero),
      row "c" (.int 9007199254740992), row "d" (.int 9007199254740994)]
    let sorted : List Row := [row "d" (.int 9007199254740994), row "a" (.int 9007199254740993),
      row "c" (.int 9007199254740992), row "b" (.float .zero)]
    order.arrange rows = .ok sorted ∧ sorted.Pairwise order.Allows ∧
      sorted.filter (order.isLevel (row "c" (.int 9007199254740992))) =
        [row "a" (.int 9007199254740993), row "c" (.int 9007199254740992)] := by
  intro row order rows sorted
  have hcompare : rows.Pairwise fun a b =>
      ∃ o, compareForOrder (a.get order.column) (b.get order.column) = .ok o := by
    have h : rows.Pairwise fun a b =>
        (compareForOrder (a.get order.column) (b.get order.column)).isOk = true := by
      decide +kernel
    refine h.imp fun {a b} hab => ?_
    cases hcompare : compareForOrder (a.get order.column) (b.get order.column) with
    | ok o => exact ⟨o, rfl⟩
    | error fault => simp [hcompare, Except.isOk, Except.toBool] at hab
  have hsorted : order.arrange rows = .ok sorted := by decide +kernel
  obtain ⟨found, hfound, -, hstable⟩ := arrange_is_stable hcompare
  obtain rfl : found = sorted := Except.ok.inj (hfound.symm.trans hsorted)
  have hnumbers : ∀ row ∈ rows, IsOrderedNumber (row.get order.column) := by
    simp only [rows, List.forall_mem_cons]
    exact ⟨trivial, rfl, trivial, trivial, by simp⟩
  obtain ⟨hallows, hlevel⟩ := hstable (.inr hnumbers)
  refine ⟨hsorted, hallows, ?_⟩
  rw [hlevel _ (by simp [rows])]
  decide +kernel

/-! ### Gaps -/

theorem compareForOrder_null {value : Value} {o : Ordering} :
    (compareForOrder .null value = .ok o → o = .eq) ∧
      (compareForOrder value .null = .ok o → o = .eq) := by
  constructor
  · intro h
    obtain ⟨left, right, hleft, -, rfl⟩ := compareForOrder_eq_ok.1 h
    obtain rfl := Except.ok.inj (sortKey_null.symm.trans hleft)
    exact (SortKey.compare_none right).1
  · intro h
    obtain ⟨left, right, -, hright, rfl⟩ := compareForOrder_eq_ok.1 h
    obtain rfl := Except.ok.inj (sortKey_null.symm.trans hright)
    exact (SortKey.compare_none left).2

/-- A row without the column is level with every other row, in either direction. -/
theorem isLevel_of_get_eq_null {column : Text} {row : Row} (h : row.get column = .null)
    (descending : Bool) (rows : List Row) :
    Sorting.Arranged.IsLevel (Sorting.Replies (comesBefore column) descending rows) row := by
  have hlevel (other : Row) :
      comesBefore column row other ≠ .ok true ∧ comesBefore column other row ≠ .ok true := by
    simp only [ne_eq, comesBefore_eq_ok, h, beq_iff_eq, exists_eq_right]
    exact ⟨fun hless => by simpa using compareForOrder_null.1 hless,
      fun hless => by simpa using compareForOrder_null.2 hless⟩
  intro other
  cases descending with
  | false => exact ⟨fun hreply => (hlevel other).1 hreply.eq_ok,
      fun hreply => (hlevel other).2 hreply.eq_ok⟩
  | true => exact ⟨fun hreply => (hlevel other).2 hreply.eq_ok,
      fun hreply => (hlevel other).1 hreply.eq_ok⟩

/-- The integer in a column. -/
def integerIn (column : Text) (row : Row) : Int :=
  match row.get column with
  | .int n => n
  | _ => 0

theorem comesBefore_of_int {column : Text} {a b : Row} {n m : Int} (ha : a.get column = .int n)
    (hb : b.get column = .int m) (hn : IsDoubleInteger n) (hm : IsDoubleInteger m) :
    comesBefore column a b = .ok (decide (n < m)) := by
  have hcompare : compareForOrder (.int n) (.int m) =
      .ok (compareNumbers (some (.ofInt n)) (some (.ofInt m))) :=
    compareForOrder_eq_ok.2
      ⟨_, _, sortKey_of_isDoubleInteger hn, sortKey_of_isDoubleInteger hm, rfl⟩
  refine comesBefore_eq_ok.2 ⟨_, by rw [ha, hb, hcompare], ?_⟩
  simp only [compareNumbers, Extended.lt_ofInt, decide_eq_true_eq]
  by_cases hlt : n < m
  · simp [hlt]
  · simp only [hlt, if_false]
    split <;> rfl

/-- A row with an integer may stand somewhere before another one. -/
def InOrder (order : SortOrder) (a b : Row) : Prop :=
  ∃ n m, a.get order.column = .int n ∧ b.get order.column = .int m ∧
    if order.descending then m ≤ n else n ≤ m

/-- A stretch of ordered rows that all hold an integer is in order. -/
theorem stretch_inOrder (h : order.arrange rows = .ok sorted) {block : List Row}
    (hstretch : block <:+: sorted)
    (hinteger : ∀ row ∈ block, ∃ n, row.get order.column = .int n ∧ IsDoubleInteger n) :
    block.Pairwise order.InOrder := by
  have hpairs := @Sorting.sort_stretch _ _ _ _ _ _ ℤ _ (integerIn order.column) h _ hstretch
    fun a ha b hb reply hreply => by
      obtain ⟨n, hn, hdouble⟩ := hinteger a ha
      obtain ⟨m, hm, hdouble'⟩ := hinteger b hb
      rw [comesBefore_of_int hn hm hdouble hdouble'] at hreply
      simpa only [integerIn, hn, hm] using (Except.ok.inj hreply).symm
  refine hpairs.imp_of_mem fun {a b} ha hb hle => ?_
  obtain ⟨n, hn, -⟩ := hinteger a ha
  obtain ⟨m, hm, -⟩ := hinteger b hb
  exact ⟨n, m, hn, hm, by simpa only [integerIn, hn, hm] using hle⟩

/-- Two numbers can stay out of order if a row without the column is between them: it is level with
both, and they are not compared with each other. -/
theorem arrange_keeps_disorder_across_gap :
    let row (id : Text) (size : Value) : Row := ⟨id, .ofList [("size", size)]⟩
    let order : SortOrder := ⟨"size", false⟩
    let rows : List Row := [row "a" (.int 3), ⟨"gap", .ofList []⟩, row "b" (.int 1)]
    (∀ r ∈ rows, r.get order.column = .null ∨
        ∃ n, r.get order.column = .int n ∧ n.natAbs ≤ 2 ^ 53) ∧
      order.arrange rows = .ok rows ∧
      ¬(rows.filter fun r => r.get order.column ≠ .null).Pairwise order.InOrder := by
  intro row order rows
  have hrows : ∀ r ∈ rows, r.get order.column = .null ∨
      ∃ n, r.get order.column = .int n ∧ n.natAbs ≤ 2 ^ 53 := by
    simp only [rows, List.forall_mem_cons]
    exact ⟨.inr ⟨3, rfl, by decide⟩, .inl rfl, .inr ⟨1, rfl, by decide⟩, by simp⟩
  have hnumbers : (rows.filter fun r => r.get order.column ≠ .null) =
      [row "a" (.int 3), row "b" (.int 1)] := by decide +kernel
  refine ⟨hrows, by decide +kernel, ?_⟩
  rw [hnumbers, List.pairwise_pair]
  rintro ⟨n, m, hn, hm, hle⟩
  obtain rfl : 3 = n := Value.int.inj hn
  obtain rfl : 1 = m := Value.int.inj hm
  exact absurd hle (by decide)

/-- Rows with integers, and rows without the column, are ordered without a failure, and the result
is a rearrangement of them. The integers of a stretch without a gap are in order there. If the rows
without the column come first or last, they stay there, and all integers are in order. -/
theorem arrange_sorts_between_gaps
    (h : ∀ row ∈ rows, row.get order.column = .null ∨
      ∃ n, row.get order.column = .int n ∧ n.natAbs ≤ 2 ^ 53) :
    ∃ sorted, order.arrange rows = .ok sorted ∧ sorted.Perm rows ∧
      (∀ block, block <:+: sorted → (∀ row ∈ block, row.get order.column ≠ .null) →
        block.Pairwise order.InOrder) ∧
      ∀ front middle back, rows = front ++ (middle ++ back) →
        (∀ row ∈ front ++ back, row.get order.column = .null) →
        (∀ row ∈ middle, row.get order.column ≠ .null) →
          ∃ numbers, sorted = front ++ (numbers ++ back) ∧ numbers.Perm middle ∧
            numbers.Pairwise order.InOrder := by
  have hkeys : ∀ row ∈ rows, ∃ key, sortKey (row.get order.column) = .ok key := by
    intro row hrow
    rcases h row hrow with hnull | ⟨n, hn, hbound⟩
    · exact ⟨_, hnull ▸ sortKey_null⟩
    · exact ⟨_, hn ▸ sortKey_of_isDoubleInteger (Double.isDoubleInteger_of_natAbs_le hbound)⟩
  obtain ⟨sorted, hsorted⟩ := exists_arrange_of_sortKey hkeys
  have hperm := arrange_perm hsorted
  have hblock (block : List Row) (hstretch : block <:+: sorted)
      (hpresent : ∀ row ∈ block, row.get order.column ≠ .null) : block.Pairwise order.InOrder := by
    refine stretch_inOrder hsorted hstretch fun row hrow => ?_
    obtain ⟨n, hn, hbound⟩ :=
      (h row (hperm.mem_iff.1 (hstretch.subset hrow))).resolve_left (hpresent row hrow)
    exact ⟨n, hn, Double.isDoubleInteger_of_natAbs_le hbound⟩
  refine ⟨sorted, hsorted, hperm, hblock, fun front middle back hrows hgaps hpresent => ?_⟩
  obtain ⟨hfront, hback⟩ := List.forall_mem_append.1 hgaps
  have harranged := Sorting.arranged_of_sort hsorted
  obtain ⟨numbers, hsplit, hmiddle⟩ := (hrows ▸ harranged).exists_append
    (fun row hrow => isLevel_of_get_eq_null (hfront row hrow) _ _)
    (fun row hrow => isLevel_of_get_eq_null (hback row hrow) _ _)
  have hstretch : numbers <:+: sorted := ⟨front, back, by simp [hsplit]⟩
  exact ⟨numbers, hsplit, hmiddle, hblock numbers hstretch fun row hrow =>
    hpresent row (hmiddle.mem_iff.1 hrow)⟩

theorem arrange_sorts_between_gaps_one_gap :
    let row (id : Text) (size : Value) : Row := ⟨id, .ofList [("size", size)]⟩
    let gap : Row := ⟨"gap", .ofList []⟩
    let order : SortOrder := ⟨"size", false⟩
    let rows : List Row := [row "a" (.int 3), gap, row "b" (.int 1), row "c" (.int 2)]
    order.arrange rows = .ok rows ∧
      [row "b" (.int 1), row "c" (.int 2)].Pairwise order.InOrder ∧
      ¬order.InOrder (row "a" (.int 3)) (row "b" (.int 1)) := by
  intro row gap order rows
  have hsorted : order.arrange rows = .ok rows := by decide +kernel
  have hrows : ∀ r ∈ rows, r.get order.column = .null ∨
      ∃ n, r.get order.column = .int n ∧ n.natAbs ≤ 2 ^ 53 := by
    simp only [rows, List.forall_mem_cons]
    exact ⟨.inr ⟨3, rfl, by decide⟩, .inl rfl, .inr ⟨1, rfl, by decide⟩, .inr ⟨2, rfl, by decide⟩,
      by simp⟩
  obtain ⟨found, hfound, -, hblock, -⟩ := arrange_sorts_between_gaps hrows
  obtain rfl : found = rows := Except.ok.inj (hfound.symm.trans hsorted)
  refine ⟨hsorted, hblock _ ⟨[row "a" (.int 3), gap], [], rfl⟩ ?_, ?_⟩
  · simp only [List.forall_mem_cons]
    exact ⟨nofun, nofun, by simp⟩
  · rintro ⟨n, m, hn, hm, hle⟩
    obtain rfl : 3 = n := Value.int.inj hn
    obtain rfl : 1 = m := Value.int.inj hm
    exact absurd hle (by decide)

end SortOrder

end TableQuery
