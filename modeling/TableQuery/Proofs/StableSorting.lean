import TableQuery.Proofs.Sorting

/-!
# Stable sorting

What a list is arranged to shows where its neighbours are in order, and more if the comparison is
that of keys.

* `Sorting.Arranged.isChain`: neighbours are in order, wherever the replies say so.
* `Sorting.Arranged.pairwise`, `Sorting.Arranged.filter`: arranging by keys puts a list in order and
  keeps the order of elements with the same key.
* `Sorting.Arranged.exists_append`: elements at both ends that are level with all others stay there.
* `Sorting.sort_isChain`, `Sorting.sort_compared`: neighbours in a sorted list; each of several
  elements was compared.
* `Sorting.sort_stretch`, `Sorting.sort_stable`: as far as it compares by keys, sorting puts in
  order, and it is stable.
-/

namespace TableQuery.Sorting

open Asking

variable {α ε : Type} {tells : α → α → Bool → Prop} {xs ys : List α}

namespace Arranged

/-- Of two neighbours, the second is not less than the first, or the first is less than the second:
one of both was asked. -/
theorem isChain (h : Arranged tells xs ys) :
    ys.IsChain fun a b => tells b a false ∨ tells a b true := by
  induction h with
  | rising h => exact h.imp fun _ _ => .inl
  | falling h => exact List.isChain_reverse.2 (h.imp fun _ _ => .inr)
  | merged _ _ h ihleft ihright =>
    exact (h.imp (fun _ _ => .inl) fun _ _ => .inr).isChain ihleft ihright

/-! ### Keys -/

section Keys

variable {κ : Type} [LinearOrder κ] {key : α → κ}

/-- Replies that compare keys. -/
def ByKey (key : α → κ) (x y : α) (reply : Bool) : Prop :=
  reply = decide (key x < key y)

theorem byKey_true {x y : α} : ByKey key x y true ↔ key x < key y := by
  simp [ByKey]

theorem byKey_false {x y : α} : ByKey key x y false ↔ key y ≤ key x := by
  simp [ByKey]

/-- A list whose neighbours are in order is in order throughout. -/
theorem pairwise_of_isChain (h : ys.IsChain fun a b => key a ≤ key b) :
    ys.Pairwise fun a b => key a ≤ key b :=
  have _ : Trans (fun a b : α => key a ≤ key b) (fun a b => key a ≤ key b)
      (fun a b => key a ≤ key b) := ⟨le_trans⟩
  h.pairwise

theorem le_of_tells {a b : α} (h : ByKey key b a false ∨ ByKey key a b true) : key a ≤ key b :=
  h.elim byKey_false.1 fun hless => (byKey_true.1 hless).le

/-- Arranging by keys puts a list in order. -/
theorem pairwise (h : Arranged (ByKey key) xs ys) : ys.Pairwise fun a b => key a ≤ key b :=
  pairwise_of_isChain (h.isChain.imp fun _ _ => le_of_tells)

/-- Where keys fall strictly, no key comes twice, and turning round changes nothing. -/
theorem reverse_filter_of_falling (h : xs.IsChain fun x y => key y < key x) (k : κ) :
    (xs.reverse.filter fun a => key a = k) = xs.filter fun a => key a = k := by
  have _ : Trans (fun a b : α => key b < key a) (fun a b => key b < key a)
      (fun a b => key b < key a) := ⟨fun hab hbc => hbc.trans hab⟩
  have hkept := h.pairwise.filter fun a => decide (key a = k)
  have hkeys : ∀ a ∈ xs.filter fun a => key a = k, key a = k := fun a ha =>
    of_decide_eq_true (List.mem_filter.1 ha).2
  rw [List.filter_reverse]
  match hfilter : xs.filter fun a => key a = k with
  | [] => rfl
  | [a] => rfl
  | a :: b :: rest =>
    rw [hfilter] at hkept hkeys
    have hba : key b < key a := (List.pairwise_cons.1 hkept).1 b List.mem_cons_self
    rw [hkeys a List.mem_cons_self, hkeys b (List.mem_cons_of_mem _ List.mem_cons_self)] at hba
    exact absurd hba (lt_irrefl k)

/-- Arranging by keys keeps the order of elements with the same key. -/
theorem filter (h : Arranged (ByKey key) xs ys) (k : κ) :
    (ys.filter fun a => key a = k) = xs.filter fun a => key a = k := by
  induction h with
  | rising _ => rfl
  | falling h => exact reverse_filter_of_falling (h.imp fun _ _ => byKey_true.1) k
  | merged hxs hys h ihleft ihright =>
    have hmerged := h.imp (fun _ _ => byKey_false.1) fun _ _ => byKey_true.1
    rw [hmerged.filter hxs.pairwise hys.pairwise k, List.filter_append, ihleft, ihright]

end Keys

/-! ### Level elements -/

/-- An element that neither precedes another one nor follows it. -/
def IsLevel (tells : α → α → Bool → Prop) (g : α) : Prop :=
  ∀ a, ¬tells g a true ∧ ¬tells a g true

/-- Level elements at the front stay there. -/
theorem exists_append_front {front rest : List α} (h : Arranged tells (front ++ rest) ys)
    (hfront : ∀ g ∈ front, IsLevel tells g) : ∃ zs, ys = front ++ zs := by
  generalize hall : front ++ rest = all at h
  induction h generalizing front rest with
  | rising _ => exact ⟨rest, hall.symm⟩
  | falling h =>
    subst hall
    match front, rest with
    | [], rest => exact ⟨_, rfl⟩
    | [g], [] => exact ⟨[], rfl⟩
    | g :: _ :: _, _ | [g], _ :: _ =>
      -- the second element would precede the first
      exact absurd (List.isChain_cons_cons.1 h).1 (hfront g List.mem_cons_self _).2
  | @merged xs ys left right merged hxs hys h ihleft ihright =>
    rcases List.append_eq_append_iff.1 hall with ⟨more, rfl, rfl⟩ | ⟨more, rfl, rfl⟩
    · obtain ⟨zs, rfl⟩ := ihleft hfront rfl
      obtain ⟨zs', rfl, -⟩ := h.exists_append fun g hg b _ => (hfront g hg b).2
      exact ⟨zs', rfl⟩
    · obtain ⟨hfirst, hsecond⟩ := List.forall_mem_append.1 hfront
      have hleft : left = xs := by
        obtain ⟨zs, rfl⟩ := ihleft hfirst (List.append_nil xs)
        have hlength := hxs.perm.length_eq
        rw [List.length_append, Nat.add_eq_left, List.length_eq_zero_iff] at hlength
        rw [hlength, List.append_nil]
      obtain ⟨zs, rfl⟩ := ihright hsecond rfl
      rw [← List.append_nil left] at h
      obtain ⟨last, rfl, hlast⟩ := h.exists_append fun g hg b _ =>
        (hfirst g (hleft ▸ hg) b).2
      exact ⟨zs, by rw [hlast.eq_of_nil, hleft, List.append_assoc]⟩

/-- Level elements at both ends stay there. -/
theorem exists_append {front middle back : List α}
    (h : Arranged tells (front ++ (middle ++ back)) ys) (hfront : ∀ g ∈ front, IsLevel tells g)
    (hback : ∀ g ∈ back, IsLevel tells g) :
    ∃ zs, ys = front ++ (zs ++ back) ∧ zs.Perm middle := by
  obtain ⟨zs, rfl⟩ := h.exists_append_front hfront
  have hturned := h.reverse
  rw [← List.append_assoc, List.reverse_append] at hturned
  obtain ⟨more, hmore⟩ := hturned.exists_append_front fun g hg a =>
    (hback g (List.mem_reverse.1 hg) a).symm
  have hperm : zs.Perm (middle ++ back) := (List.perm_append_left_iff front).1 h.perm
  have hwhole : back <:+ front ++ zs := by
    rw [← List.reverse_prefix, hmore]
    exact List.prefix_append _ _
  have hsuffix : back <:+ zs := by
    refine List.suffix_of_suffix_length_le hwhole (List.suffix_append front zs) ?_
    rw [hperm.length_eq, List.length_append]
    exact Nat.le_add_left _ _
  obtain ⟨numbers, rfl⟩ := hsuffix
  exact ⟨numbers, rfl, (List.perm_append_right_iff back).1 hperm⟩

end Arranged

/-! ### Sorting -/

section Directions

variable {less : α → α → Except ε Bool} {descending : Bool}

/-- Sorting rearranges, whatever the comparison. -/
theorem sort_perm (h : sort less descending xs = .ok ys) : ys.Perm xs :=
  (arranged_of_sort h).perm

/-- In a sorted list, the comparison of two neighbours has a reply, and no element precedes the one
before it. -/
theorem sort_isChain (h : sort less descending xs = .ok ys) :
    ys.IsChain fun a b =>
      Replies less descending xs b a false ∨ Replies less descending xs a b true :=
  (arranged_of_sort h).isChain

/-- In a list of several elements, each one has a neighbour. -/
theorem exists_neighbour {R : α → α → Prop} (h : ys.IsChain R) (hlong : 2 ≤ ys.length) :
    ∀ a ∈ ys, ∃ b, R a b ∨ R b a := by
  induction ys with
  | nil => simp
  | cons first ys ih =>
    cases ys with
    | nil => simp at hlong
    | cons second ys =>
      obtain ⟨hfirst, hrest⟩ := List.isChain_cons_cons.1 h
      refine List.forall_mem_cons.2 ⟨⟨second, .inl hfirst⟩, ?_⟩
      cases ys with
      | nil => exact List.forall_mem_singleton.2 ⟨first, .inr hfirst⟩
      | cons third ys => exact ih hrest (by simp)

/-- If several elements are sorted, each of them was compared with another one. -/
theorem sort_compared (h : sort less descending xs = .ok ys) (hlong : 2 ≤ xs.length) :
    ∀ a ∈ xs, ∃ b reply, less a b = .ok reply ∨ less b a = .ok reply := by
  have hperm := sort_perm h
  intro a ha
  obtain ⟨b, hab⟩ :=
    exists_neighbour (sort_isChain h) (hperm.length_eq ▸ hlong) a (hperm.mem_iff.2 ha)
  rcases hab with (hab | hab) | (hab | hab)
  · exact ⟨b, _, hab.compares.symm⟩
  · exact ⟨b, _, hab.compares⟩
  · exact ⟨b, _, hab.compares⟩
  · exact ⟨b, _, hab.compares.symm⟩

/-- A single element is not compared. -/
theorem sort_of_length_le_one (h : xs.length ≤ 1) : sort less descending xs = .ok xs := by
  obtain ⟨ys, hsort, harranged⟩ | ⟨_, _, _, -, hpair, -⟩ := sort_cases less descending xs
  · rw [hsort]
    match xs with
    | [] => rw [List.perm_nil.1 harranged.perm]
    | [x] => rw [List.perm_singleton.1 harranged.perm]
  · have hlong : 2 ≤ xs.length := hpair.elim List.Sublist.length_le List.Sublist.length_le
    omega

section Keys

variable {κ : Type} [LinearOrder κ] {key : α → κ}

/-- Any stretch of a sorted list is in order, as far as its elements are compared by keys. -/
theorem sort_stretch (h : sort less descending xs = .ok ys) {block : List α}
    (hblock : block <:+: ys) (hkey : ∀ x ∈ block, ∀ y ∈ block, ∀ reply,
      less x y = .ok reply → reply = decide (key x < key y)) :
    block.Pairwise fun a b => if descending then key b ≤ key a else key a ≤ key b := by
  have hchain : block.IsChain fun a b =>
      Replies less descending xs b a false ∨ Replies less descending xs a b true := by
    obtain ⟨front, back, rfl⟩ := hblock
    exact (sort_isChain h).left_of_append.right_of_append
  cases descending with
  | false =>
    refine Arranged.pairwise_of_isChain (hchain.imp_of_mem_imp fun a b ha hb hab => ?_)
    exact Arranged.le_of_tells <| hab.imp (fun hreply => hkey b hb a ha _ hreply.eq_ok)
      fun hreply => hkey a ha b hb _ hreply.eq_ok
  | true =>
    refine @Arranged.pairwise_of_isChain α block κᵒᵈ _ key
      (hchain.imp_of_mem_imp fun a b ha hb hab => ?_)
    exact @Arranged.le_of_tells α κᵒᵈ _ key a b <| hab.imp
      (fun hreply => hkey a ha b hb _ hreply.eq_ok) fun hreply => hkey b hb a ha _ hreply.eq_ok

/-- As far as a comparison is that of keys, sorting is stable. -/
theorem sort_stable (h : sort less descending xs = .ok ys)
    (hkey : ∀ x ∈ xs, ∀ y ∈ xs, ∀ reply,
      less x y = .ok reply → reply = decide (key x < key y)) :
    (ys.Pairwise fun a b => if descending then key b ≤ key a else key a ≤ key b) ∧
      ∀ k, (ys.filter fun a => key a = k) = xs.filter fun a => key a = k := by
  have hmem {x : α} : x ∈ ys → x ∈ xs := (sort_perm h).mem_iff.1
  refine ⟨sort_stretch h List.infix_rfl fun x hx y hy => hkey x (hmem hx) y (hmem hy), ?_⟩
  have harranged := arranged_of_sort h
  cases descending with
  | false =>
    have hkeyed : Arranged (Arranged.ByKey key) xs ys :=
      harranged.imp fun x y reply hreply => hkey x hreply.left y hreply.right reply hreply.eq_ok
    exact hkeyed.filter
  | true =>
    have hkeyed : Arranged (@Arranged.ByKey α κᵒᵈ _ key) xs ys :=
      harranged.imp fun x y reply hreply => hkey y hreply.right x hreply.left reply hreply.eq_ok
    exact hkeyed.filter

end Keys

end Directions

end TableQuery.Sorting
