import Mathlib.Data.List.Chain
import Mathlib.Order.Lattice

/-!
# Interleaved lists

Two lists are interleaved if their elements are put together and those of each list keep their
order. What may stand next to each other where the lists meet is said by two relations.

* `Interleaves`: a list is made of two others.
* `Interleaves.append_left`, `Interleaves.append_right`, `Interleaves.append_end`: blocks at the
  front and at the end.
* `Interleaves.swap`, `Interleaves.reverse`: the two lists change places, or all are turned round.
* `Interleaves.perm`, `Interleaves.isChain`, `Interleaves.filter`: what follows for the list.
* `Interleaves.exists_append`: elements that nothing may stand before stay at the front.
-/

namespace TableQuery.Sorting

variable {α : Type}

/-- The elements from the first of two lists. -/
def lefts (marked : List (α ⊕ α)) : List α := marked.filterMap Sum.getLeft?

/-- The elements from the second of two lists. -/
def rights (marked : List (α ⊕ α)) : List α := marked.filterMap Sum.getRight?

/-- The elements from both lists. -/
def unmarked (marked : List (α ⊕ α)) : List α := marked.map (Sum.elim id id)

/-- What may directly follow an element: the relations are about the two places where the lists
meet. -/
def MayFollow (down up : α → α → Prop) : α ⊕ α → α ⊕ α → Prop
  | .inl a, .inr b => down a b
  | .inr b, .inl a => up b a
  | _, _ => True

/-- A list is made of two others. Where an element of the first is directly followed by one of the
second, `down` holds of them, and where it is the other way round, `up`. -/
def Interleaves (down up : α → α → Prop) (xs ys zs : List α) : Prop :=
  ∃ marked, lefts marked = xs ∧ rights marked = ys ∧ unmarked marked = zs ∧
    marked.IsChain (MayFollow down up)

section Marks

@[simp] theorem lefts_inl (a : α) (marked : List (α ⊕ α)) :
    lefts (.inl a :: marked) = a :: lefts marked := rfl

@[simp] theorem lefts_inr (b : α) (marked : List (α ⊕ α)) :
    lefts (.inr b :: marked) = lefts marked := rfl

@[simp] theorem rights_inl (a : α) (marked : List (α ⊕ α)) :
    rights (.inl a :: marked) = rights marked := rfl

@[simp] theorem rights_inr (b : α) (marked : List (α ⊕ α)) :
    rights (.inr b :: marked) = b :: rights marked := rfl

@[simp] theorem unmarked_inl (a : α) (marked : List (α ⊕ α)) :
    unmarked (.inl a :: marked) = a :: unmarked marked := rfl

@[simp] theorem unmarked_inr (b : α) (marked : List (α ⊕ α)) :
    unmarked (.inr b :: marked) = b :: unmarked marked := rfl

theorem lefts_map_inl (xs : List α) : lefts (xs.map Sum.inl) = xs := by
  induction xs with
  | nil => rfl
  | cons x xs ih => rw [List.map_cons, lefts_inl, ih]

theorem rights_map_inl (xs : List α) : rights (xs.map Sum.inl) = [] := by
  induction xs with
  | nil => rfl
  | cons x xs ih => rw [List.map_cons, rights_inl, ih]

theorem unmarked_map_inl (xs : List α) : unmarked (xs.map Sum.inl) = xs := by
  simp [unmarked]

theorem lefts_append (front back : List (α ⊕ α)) :
    lefts (front ++ back) = lefts front ++ lefts back :=
  List.filterMap_append

theorem rights_append (front back : List (α ⊕ α)) :
    rights (front ++ back) = rights front ++ rights back :=
  List.filterMap_append

theorem unmarked_append (front back : List (α ⊕ α)) :
    unmarked (front ++ back) = unmarked front ++ unmarked back :=
  List.map_append

theorem lefts_map_swap (marked : List (α ⊕ α)) : lefts (marked.map Sum.swap) = rights marked := by
  simp [lefts, rights, List.filterMap_map]

theorem rights_map_swap (marked : List (α ⊕ α)) : rights (marked.map Sum.swap) = lefts marked := by
  simp [lefts, rights, List.filterMap_map]

theorem unmarked_map_swap (marked : List (α ⊕ α)) :
    unmarked (marked.map Sum.swap) = unmarked marked := by
  rw [unmarked, List.map_map]
  refine List.map_congr_left fun mark _ => ?_
  cases mark <;> rfl

theorem isChain_map_inl {down up : α → α → Prop} (xs : List α) :
    (xs.map Sum.inl).IsChain (MayFollow down up) := by
  rw [List.isChain_map]
  exact (List.pairwise_of_forall fun _ _ => trivial).isChain

end Marks

namespace Interleaves

variable {down up : α → α → Prop} {xs ys zs : List α}

theorem of_left (xs : List α) : Interleaves down up xs [] xs :=
  ⟨xs.map Sum.inl, lefts_map_inl xs, rights_map_inl xs, unmarked_map_inl xs, isChain_map_inl xs⟩

/-- The two lists change places. -/
theorem swap (h : Interleaves down up xs ys zs) : Interleaves up down ys xs zs := by
  obtain ⟨marked, rfl, rfl, rfl, hchain⟩ := h
  refine ⟨marked.map Sum.swap, lefts_map_swap marked, rights_map_swap marked,
    unmarked_map_swap marked, ?_⟩
  rw [List.isChain_map]
  refine hchain.imp fun a b hab => ?_
  cases a <;> cases b <;> exact hab

theorem of_right (ys : List α) : Interleaves down up [] ys ys :=
  (of_left ys).swap

theorem imp {down' up' : α → α → Prop} (h : Interleaves down up xs ys zs)
    (hdown : ∀ a b, down a b → down' a b) (hup : ∀ b a, up b a → up' b a) :
    Interleaves down' up' xs ys zs := by
  obtain ⟨marked, hxs, hys, hzs, hchain⟩ := h
  refine ⟨marked, hxs, hys, hzs, hchain.imp fun a b hab => ?_⟩
  cases a <;> cases b
  exacts [trivial, hdown _ _ hab, hup _ _ hab, trivial]

/-- All lists are turned round. -/
theorem reverse (h : Interleaves down up xs ys zs) :
    Interleaves (flip up) (flip down) xs.reverse ys.reverse zs.reverse := by
  obtain ⟨marked, rfl, rfl, rfl, hchain⟩ := h
  refine ⟨marked.reverse, by simp [lefts, List.filterMap_reverse],
    by simp [rights, List.filterMap_reverse], by simp [unmarked], ?_⟩
  rw [List.isChain_reverse]
  refine hchain.imp fun a b hab => ?_
  cases a <;> cases b <;> exact hab

/-- A block of the first list at the front. -/
theorem append_left (h : Interleaves down up xs ys zs) (block : List α)
    (hblock : ∀ a ∈ block.getLast?, ∀ b ∈ ys.head?, down a b) :
    Interleaves down up (block ++ xs) ys (block ++ zs) := by
  obtain ⟨marked, rfl, rfl, rfl, hchain⟩ := h
  refine ⟨block.map Sum.inl ++ marked, by rw [lefts_append, lefts_map_inl],
    by rw [rights_append, rights_map_inl, List.nil_append],
    by rw [unmarked_append, unmarked_map_inl], ?_⟩
  rw [List.isChain_append]
  refine ⟨isChain_map_inl block, hchain, fun last hlast first hfirst => ?_⟩
  obtain ⟨a, ha, rfl⟩ : ∃ a ∈ block.getLast?, Sum.inl a = last := by simpa using hlast
  cases marked with
  | nil => simp at hfirst
  | cons mark marked =>
    obtain rfl : mark = first := by simpa using hfirst
    cases mark with
    | inl _ => trivial
    | inr b => exact hblock a ha b rfl

/-- A block of the second list at the front. -/
theorem append_right (h : Interleaves down up xs ys zs) (block : List α)
    (hblock : ∀ b ∈ block.getLast?, ∀ a ∈ xs.head?, up b a) :
    Interleaves down up xs (block ++ ys) (block ++ zs) :=
  (h.swap.append_left block hblock).swap

/-- A block of the second list at the end. -/
theorem append_end (h : Interleaves down up xs ys zs) (block : List α)
    (hblock : ∀ a ∈ xs.getLast?, ∀ b ∈ block.head?, down a b) :
    Interleaves down up xs (ys ++ block) (zs ++ block) := by
  have hturned := h.reverse.append_right block.reverse fun b hb a ha =>
    hblock a (by simpa using ha) b (by simpa using hb)
  have hback := hturned.reverse
  simpa using hback

/-! ### What follows -/

theorem perm (h : Interleaves down up xs ys zs) : zs.Perm (xs ++ ys) := by
  obtain ⟨marked, rfl, rfl, rfl, -⟩ := h
  induction marked with
  | nil => exact .nil
  | cons first marked ih =>
    cases first with
    | inl a => exact ih.cons a
    | inr b => exact (ih.cons b).trans List.perm_middle.symm

theorem eq_of_nil (h : Interleaves down up [] ys zs) : zs = ys := by
  obtain ⟨marked, hlefts, rfl, rfl, -⟩ := h
  induction marked with
  | nil => rfl
  | cons first marked ih =>
    cases first with
    | inl a => simp at hlefts
    | inr b => exact congrArg (b :: ·) (ih hlefts)

/-- Neighbours are in a relation if they are in each of the lists, and where the lists meet. -/
theorem isChain {R : α → α → Prop} (h : Interleaves R R xs ys zs) (hxs : xs.IsChain R)
    (hys : ys.IsChain R) : zs.IsChain R := by
  obtain ⟨marked, rfl, rfl, rfl, hchain⟩ := h
  induction marked with
  | nil => exact .nil
  | cons first marked ih =>
    cases marked with
    | nil => cases first <;> exact .singleton _
    | cons second marked =>
      obtain ⟨hfirst, hrest⟩ := List.isChain_cons_cons.1 hchain
      cases first with
      | inl a =>
        have hmore := ih (List.IsChain.of_cons hxs) hys hrest
        cases second with
        | inl a' => exact hmore.cons_cons (List.isChain_cons_cons.1 hxs).1
        | inr b => exact hmore.cons_cons hfirst
      | inr b =>
        have hmore := ih hxs (List.IsChain.of_cons hys) hrest
        cases second with
        | inl a => exact hmore.cons_cons hfirst
        | inr b' => exact hmore.cons_cons (List.isChain_cons_cons.1 hys).1

section Keys

variable {κ : Type} [LinearOrder κ] {key : α → κ}

/-- If the first list is in order, and elements of the second stand before elements of the first
only if they are less, an element of the second at the front is less than all of the first. -/
theorem lt_of_mem_lefts {marked : List (α ⊕ α)} {b : α}
    (hchain : (.inr b :: marked).IsChain
      (MayFollow (fun a b => key a ≤ key b) fun b a => key b < key a))
    (hxs : (lefts marked).Pairwise fun a a' => key a ≤ key a')
    (hys : (b :: rights marked).Pairwise fun b b' => key b ≤ key b') :
    ∀ a ∈ lefts marked, key b < key a := by
  induction marked generalizing b with
  | nil => simp [lefts]
  | cons first marked ih =>
    obtain ⟨hfirst, hrest⟩ := List.isChain_cons_cons.1 hchain
    cases first with
    | inl a =>
      have hlt : key b < key a := hfirst
      obtain ⟨hle, -⟩ := List.pairwise_cons.1 hxs
      exact List.forall_mem_cons.2 ⟨hlt, fun a' ha' => hlt.trans_le (hle a' ha')⟩
    | inr b' =>
      obtain ⟨hle, hys⟩ := List.pairwise_cons.1 hys
      intro a ha
      exact (hle b' List.mem_cons_self).trans_lt (ih hrest hxs hys a ha)

/-- Elements with the same key come in the order of the lists, the first list first. -/
theorem filter (h : Interleaves (fun a b => key a ≤ key b) (fun b a => key b < key a) xs ys zs)
    (hxs : xs.Pairwise fun a a' => key a ≤ key a') (hys : ys.Pairwise fun b b' => key b ≤ key b')
    (k : κ) :
    (zs.filter fun a => key a = k) =
      (xs.filter fun a => key a = k) ++ ys.filter fun a => key a = k := by
  obtain ⟨marked, rfl, rfl, rfl, hchain⟩ := h
  induction marked with
  | nil => rfl
  | cons first marked ih =>
    have hrest := List.IsChain.of_cons hchain
    cases first with
    | inl a =>
      rw [unmarked_inl, lefts_inl, rights_inl, List.filter_cons, List.filter_cons,
        ih (List.pairwise_cons.1 hxs).2 hys hrest]
      split <;> rfl
    | inr b =>
      have hgreater := lt_of_mem_lefts hchain hxs hys
      rw [unmarked_inr, lefts_inr, rights_inr, List.filter_cons, List.filter_cons,
        ih hxs (List.pairwise_cons.1 hys).2 hrest]
      split
      · rename_i hb
        -- no element of the first list has the key of `b`
        have hnone : ((lefts marked).filter fun a => key a = k) = [] := by
          refine List.filter_eq_nil_iff.2 fun a ha => ?_
          have hlt := hgreater a ha
          rw [of_decide_eq_true hb] at hlt
          simpa using hlt.ne'
        rw [hnone, List.nil_append, List.nil_append]
      · rfl

end Keys

/-- Before the first element of the first list there is no element of the second, or one stands
directly before it. -/
theorem exists_up {marked : List (α ⊕ α)} {b g : α}
    (hchain : (.inr b :: marked).IsChain (MayFollow down up)) (hg : g ∈ (lefts marked).head?) :
    ∃ b' ∈ b :: rights marked, up b' g := by
  induction marked generalizing b with
  | nil => simp [lefts] at hg
  | cons first marked ih =>
    obtain ⟨hfirst, hrest⟩ := List.isChain_cons_cons.1 hchain
    cases first with
    | inl a =>
      obtain rfl : a = g := by simpa using hg
      exact ⟨b, List.mem_cons_self, hfirst⟩
    | inr b' =>
      obtain ⟨last, hlast, hup⟩ := ih hrest hg
      exact ⟨last, List.mem_cons_of_mem _ hlast, hup⟩

/-- Elements of the first list that none of the second may stand before stay at the front. -/
theorem exists_append {front : List α} (h : Interleaves down up (front ++ xs) ys zs)
    (hfront : ∀ a ∈ front, ∀ b ∈ ys, ¬up b a) :
    ∃ rest, zs = front ++ rest ∧ Interleaves down up xs ys rest := by
  obtain ⟨marked, hlefts, rfl, rfl, hchain⟩ := h
  induction front generalizing marked with
  | nil => exact ⟨_, rfl, marked, hlefts, rfl, rfl, hchain⟩
  | cons g front ih =>
    cases marked with
    | nil => simp [lefts] at hlefts
    | cons first marked =>
      cases first with
      | inl a =>
        obtain ⟨rfl, hothers⟩ := List.cons.inj hlefts
        obtain ⟨rest, hrest, hmore⟩ := ih marked hothers
          (fun a ha => hfront a (List.mem_cons_of_mem _ ha)) (List.IsChain.of_cons hchain)
        exact ⟨rest, congrArg (a :: ·) hrest, hmore⟩
      | inr b =>
        have hg : g ∈ (lefts marked).head? := by
          rw [lefts_inr] at hlefts
          rw [hlefts]
          rfl
        obtain ⟨b', hb', hup⟩ := exists_up hchain hg
        exact absurd hup (hfront g List.mem_cons_self b' hb')

end Interleaves

end TableQuery.Sorting
