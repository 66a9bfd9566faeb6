import TableQuery.Proofs.Merging

/-!
# Arrangements

However a comparison replies, sorting turns falling stretches of a list round and merges
neighbouring stretches, an insertion being the merging with a single element.

* `Sorting.Arranged`: what can be made of a list in this way.
* `Sorting.nextRun_ensures`: the next run.
* `Sorting.Stacked`: the runs of the beginning of a list.
* `Sorting.sortRising_ensures`: sorting arranges the list, and asks only whether a later element is
  less than an earlier one.
* `Sorting.sort_cases`, `Sorting.sort_congr`: what this says about sorting in either direction.
-/

namespace TableQuery.Sorting

open Asking

variable {α ε : Type} {asks : α → α → Prop} {tells : α → α → Bool → Prop}

/-- What is made of a list by turning falling stretches round and merging neighbours, where `tells`
is what comparisons reply to the question whether a later element is less than an earlier one. -/
inductive Arranged (tells : α → α → Bool → Prop) : List α → List α → Prop
  | rising {xs : List α} (h : xs.IsChain fun x y => tells y x false) : Arranged tells xs xs
  | falling {xs : List α} (h : xs.IsChain fun x y => tells y x true) : Arranged tells xs xs.reverse
  | merged {xs ys left right merged : List α} (hxs : Arranged tells xs left)
      (hys : Arranged tells ys right) (h : Merges tells left right merged) :
      Arranged tells (xs ++ ys) merged

theorem Arranged.imp {tells' : α → α → Bool → Prop} {xs ys : List α} (h : Arranged tells xs ys)
    (himp : ∀ x y reply, tells x y reply → tells' x y reply) : Arranged tells' xs ys := by
  induction h with
  | rising h => exact .rising (h.imp fun _ _ => himp _ _ _)
  | falling h => exact .falling (h.imp fun _ _ => himp _ _ _)
  | merged _ _ h ihleft ihright =>
    exact .merged ihleft ihright (h.imp (fun _ _ => himp _ _ _) fun _ _ => himp _ _ _)

theorem Arranged.perm {xs ys : List α} (h : Arranged tells xs ys) : ys.Perm xs := by
  induction h with
  | rising _ => exact .refl _
  | falling _ => exact List.reverse_perm _
  | merged _ _ h ihleft ihright => exact h.perm.trans (ihleft.append ihright)

/-- All questions about a list are whether a later element is less than an earlier one. -/
abbrev AsksBack (asks : α → α → Prop) (xs : List α) : Prop :=
  xs.Pairwise fun x y => asks y x

theorem Arranged.asks_of_append {xs ys left right : List α} (hleft : Arranged tells xs left)
    (hright : Arranged tells ys right) (h : AsksBack asks (xs ++ ys)) :
    ∀ b ∈ right, ∀ a ∈ left, asks b a := fun b hb a ha =>
  (List.pairwise_append.1 h).2.2 a (hleft.perm.mem_iff.1 ha) b (hright.perm.mem_iff.1 hb)

/-! ### Runs -/

/-- A run goes on with the first elements after it. -/
theorem followRun_ensures {falling : Bool} {last : α} {before rest : List α}
    (hasks : AsksBack asks (last :: rest))
    (hrun : (last :: before).IsChain fun y x => tells y x falling) :
    (followRun falling last before rest).Ensures asks tells fun run =>
      run.IsChain (fun y x => tells y x falling) ∧
        ∃ more left, rest = more ++ left ∧ run = more.reverse ++ last :: before := by
  induction rest generalizing last before with
  | nil => exact ensures_pure ⟨hrun, [], [], rfl, rfl⟩
  | cons next rest ih =>
    obtain ⟨hlast, hmore⟩ := List.pairwise_cons.1 hasks
    refine (ensures_isLess (hlast next List.mem_cons_self)).bind fun reply htells => ?_
    split
    · rename_i hreply
      obtain rfl : reply = falling := eq_of_beq hreply
      refine (ih hmore (hrun.cons_cons htells)).mono ?_
      rintro _ ⟨hchain, more, left, rfl, rfl⟩
      exact ⟨hchain, next :: more, left, rfl, by simp⟩
    · exact ensures_pure ⟨hrun, [], next :: rest, rfl, rfl⟩

theorem initialRun_ensures {first : α} {rest : List α} (hasks : AsksBack asks (first :: rest)) :
    (initialRun first rest).Ensures asks tells fun run =>
      ∃ more left, rest = more ++ left ∧ Arranged tells (first :: more) run := by
  cases rest with
  | nil => exact ensures_pure ⟨[], [], rfl, .rising (.singleton first)⟩
  | cons next rest =>
    obtain ⟨hfirst, hmore⟩ := List.pairwise_cons.1 hasks
    refine (ensures_isLess (hfirst next List.mem_cons_self)).bind fun reply htells => ?_
    cases reply with
    | true =>
      refine (followRun_ensures hmore (List.isChain_pair.2 htells)).mono ?_
      rintro _ ⟨hchain, more, left, rfl, rfl⟩
      refine ⟨next :: more, left, rfl, ?_⟩
      have hfalls := Arranged.falling (List.isChain_reverse.2 hchain)
      simpa using hfalls
    | false =>
      refine (followRun_ensures hmore (List.isChain_pair.2 htells)).bind ?_
      rintro _ ⟨hchain, more, left, rfl, rfl⟩
      refine ensures_pure ⟨next :: more, left, rfl, ?_⟩
      have hrises := Arranged.rising (List.isChain_reverse.2 hchain)
      simpa using hrises

/-- Inserting an element is merging with it. -/
theorem insert_ensures {x : α} {xs sorted : List α} (hasks : AsksBack asks (xs ++ [x]))
    (h : Arranged tells xs sorted) :
    (insert x sorted).Ensures asks tells (Arranged tells (xs ++ [x])) := by
  have hx : Arranged tells [x] [x] := .rising (.singleton x)
  have hall := h.asks_of_append hx hasks
  refine (countHalving_ensures fun y hy => Direction.forward.stays_ensures
    (hall x (by simp) y hy)).bind fun count hcuts => ensures_pure (.merged h hx ?_)
  have hback : Merges tells (sorted.drop count) ([x] ++ []) ([x] ++ sorted.drop count) :=
    (Interleaves.of_left _).append_right [x] fun b hb a ha => by
      obtain rfl : x = b := by simpa using hb
      exact hcuts.after a ha
  have hmerged := hback.append_left (sorted.take count) fun a ha b hb => by
    obtain rfl : x = b := by simpa using hb
    exact hcuts.before a ha
  rwa [List.take_append_drop] at hmerged

theorem insertAll_ensures {xs sorted more : List α} (hasks : AsksBack asks (xs ++ more))
    (h : Arranged tells xs sorted) :
    (insertAll sorted more).Ensures asks tells (Arranged tells (xs ++ more)) := by
  induction more generalizing xs sorted with
  | nil =>
    rw [List.append_nil]
    exact ensures_pure h
  | cons x more ih =>
    rw [List.append_cons] at hasks ⊢
    exact (insert_ensures (List.pairwise_append.1 hasks).1 h).bind fun _ hinserted =>
      ih hasks hinserted

/-- The next run is what is made of the next elements. -/
theorem nextRun_ensures {leastLength : Nat} {first : α} {rest : List α}
    (hasks : AsksBack asks (first :: rest)) :
    (nextRun leastLength first rest).Ensures asks tells fun run =>
      Arranged tells (first :: rest.take (run.length - 1)) run := by
  refine (initialRun_ensures hasks).bind ?_
  rintro run ⟨more, left, rfl, hrun⟩
  have hlength : run.length - 1 = more.length := by rw [hrun.perm.length_eq]; rfl
  rw [hlength, List.drop_left]
  set longest := left.take (leastLength - run.length)
  have hstarts : more ++ longest <+: more ++ left :=
    (List.prefix_append_right_inj more).2 (List.take_prefix _ left)
  refine (insertAll_ensures (hasks.sublist (hstarts.sublist.cons_cons first)) hrun).mono
    fun longer hlonger => ?_
  have htaken : longer.length - 1 = (more ++ longest).length := by rw [hlonger.perm.length_eq]; rfl
  rw [htaken, ← List.prefix_iff_eq_take.1 hstarts]
  exact hlonger

/-! ### Stacks -/

/-- Runs of a list, the last one first. -/
inductive Stacked (tells : α → α → Bool → Prop) : List α → List (List α) → Prop
  | nil : Stacked tells [] []
  | cons {xs ys run : List α} {runs : List (List α)} (hxs : Stacked tells xs runs)
      (hys : Arranged tells ys run) : Stacked tells (xs ++ ys) (run :: runs)

/-- Merging the last two runs. -/
theorem Stacked.merge_last {xs last before : List α} {runs : List (List α)} {least : Nat}
    (h : Stacked tells xs (last :: before :: runs)) (hasks : AsksBack asks xs) :
    (mergeRuns least before last).Ensures asks tells fun merged =>
      Stacked tells xs (merged.2 :: runs) := by
  obtain _ | ⟨_ | ⟨hruns, hbefore⟩, hlast⟩ := h
  rw [List.append_assoc] at hasks ⊢
  exact (mergeRuns_ensures least (hbefore.asks_of_append hlast
    (List.pairwise_append.1 hasks).2.1)).mono fun _ hmerged =>
      hruns.cons (.merged hbefore hlast hmerged)

theorem collapse_ensures {power least : Nat} {xs last : List α} {stack : Stack α}
    (h : Stacked tells xs (last :: stack.map Prod.fst)) (hasks : AsksBack asks xs) :
    (collapse power least last stack).Ensures asks tells fun collapsed =>
      Stacked tells xs (collapsed.2.1 :: collapsed.2.2.map Prod.fst) := by
  induction stack generalizing least last with
  | nil => exact ensures_pure h
  | cons entry stack ih =>
    unfold collapse
    split
    · exact (h.merge_last hasks).bind fun _ hmerged => ih hmerged
    · exact ensures_pure h

theorem push_ensures {total least : Nat} {xs ys run : List α} {stack : Stack α}
    (h : Stacked tells xs (stack.map Prod.fst)) (hrun : Arranged tells ys run)
    (hasks : AsksBack asks xs) :
    (push total least run stack).Ensures asks tells fun pushed =>
      Stacked tells (xs ++ ys) (pushed.2.map Prod.fst) := by
  cases stack with
  | nil => exact ensures_pure (h.cons hrun)
  | cons entry stack =>
    exact (collapse_ensures h hasks).bind fun _ hcollapsed =>
      ensures_pure (hcollapsed.cons hrun)

theorem mergeAll_ensures {least : Nat} {xs : List α} {runs : List (List α)}
    (h : Stacked tells xs runs) (hasks : AsksBack asks xs) :
    (mergeAll least runs).Ensures asks tells (Arranged tells xs) := by
  fun_induction mergeAll least runs generalizing xs with
  | case1 =>
    cases h
    exact ensures_pure (.rising .nil)
  | case2 least run =>
    obtain _ | ⟨_ | _, hrun⟩ := h
    exact ensures_pure hrun
  | case3 least last before =>
    refine (h.merge_last hasks).bind fun merged hmerged => ?_
    obtain _ | ⟨_ | _, hrun⟩ := hmerged
    exact ensures_pure hrun
  | case4 least last before early runs hshort ih =>
    obtain _ | ⟨hrest, hlast⟩ := h
    exact (hrest.merge_last (List.pairwise_append.1 hasks).1).bind fun _ hmerged =>
      ih _ _ (hmerged.cons hlast) hasks
  | case5 least last before early runs hshort ih =>
    exact (h.merge_last hasks).bind fun _ hmerged => ih _ _ hmerged hasks

/-! ### Sorting -/

theorem sortFrom_ensures {total leastLength least : Nat} (done : List α) {xs : List α}
    {stack : Stack α} (h : Stacked tells done (stack.map Prod.fst))
    (hasks : AsksBack asks (done ++ xs)) :
    (sortFrom total leastLength least stack xs).Ensures asks tells
      (Arranged tells (done ++ xs)) := by
  fun_induction sortFrom total leastLength least stack xs generalizing done with
  | case1 least stack =>
    rw [List.append_nil] at hasks ⊢
    exact mergeAll_ensures h hasks
  | case2 least stack first rest ih =>
    obtain ⟨hdone, hnext, -⟩ := List.pairwise_append.1 hasks
    refine (nextRun_ensures hnext).bind fun run hrun => ?_
    refine (push_ensures h hrun hdone).bind fun pushed hpushed => ?_
    have hmore := ih run pushed.1 pushed.2 _ hpushed
    simp only [List.append_assoc, List.cons_append, List.take_append_drop] at hmore
    exact hmore hasks

/-- Sorting in rising order arranges the list, and asks only whether a later element is less than an
earlier one. -/
theorem sortRising_ensures {xs : List α} (hasks : AsksBack asks xs) :
    (sortRising xs).Ensures asks tells (Arranged tells xs) :=
  sortFrom_ensures [] .nil hasks

/-- A list that is arranged stays so when it is turned round, if the comparison is, too. -/
theorem Arranged.reverse {xs ys : List α} (h : Arranged tells xs ys) :
    Arranged (fun x y => tells y x) xs.reverse ys.reverse := by
  induction h with
  | rising h => exact .rising (List.isChain_reverse.2 h)
  | falling h => exact .falling (List.isChain_reverse.2 h)
  | merged _ _ h ihleft ihright =>
    rw [List.reverse_append]
    exact .merged ihright ihleft h.reverse.swap

section Directions

variable {less : α → α → Except ε Bool} {descending : Bool} {xs ys : List α}

/-- What is replied to the question whether an element of a list comes before another one, in either
direction. -/
structure Replies (less : α → α → Except ε Bool) (descending : Bool) (xs : List α) (x y : α)
    (reply : Bool) : Prop where
  left : x ∈ xs
  right : y ∈ xs
  eq_ok : (if descending then less y x else less x y) = .ok reply

theorem Replies.compares {x y : α} {reply : Bool} (h : Replies less descending xs x y reply) :
    less x y = .ok reply ∨ less y x = .ok reply := by
  cases descending with
  | false => exact .inl h.eq_ok
  | true => exact .inr h.eq_ok

/-- Sorting arranges the list, unless a comparison of elements at two places fails. -/
theorem sort_cases (less : α → α → Except ε Bool) (descending : Bool) (xs : List α) :
    (∃ ys, sort less descending xs = .ok ys ∧ Arranged (Replies less descending xs) xs ys) ∨
      ∃ e x y, sort less descending xs = .error e ∧ ([x, y].Sublist xs ∨ [y, x].Sublist xs) ∧
        less x y = .error e := by
  have hpairs : xs.Pairwise fun x y => [x, y].Sublist xs := List.pairwise_iff_forall_sublist.2 id
  cases descending with
  | false =>
    obtain ⟨ys, hrun, hys⟩ | ⟨e, x, y, hrun, hxy, hless⟩ :=
      Ensures.run_cases less (@sortRising_ensures _ (fun y x => [x, y].Sublist xs) _ xs hpairs)
    · exact .inl ⟨ys, hrun, hys.imp fun y x reply ⟨hxy, hreply⟩ =>
        ⟨hxy.subset (by simp), hxy.subset (by simp), hreply⟩⟩
    · exact .inr ⟨e, x, y, hrun, .inr hxy, hless⟩
  | true =>
    have hturned : AsksBack (fun x y => [x, y].Sublist xs) xs.reverse :=
      List.pairwise_reverse.2 hpairs
    obtain ⟨ys, hrun, hys⟩ | ⟨e, x, y, hrun, hxy, hless⟩ :=
      Ensures.run_cases less (sortRising_ensures hturned)
    · refine .inl ⟨ys.reverse, congrArg (Except.map List.reverse) hrun, ?_⟩
      have hback := hys.reverse
      rw [List.reverse_reverse] at hback
      exact hback.imp fun y x reply ⟨hxy, hreply⟩ =>
        ⟨hxy.subset (by simp), hxy.subset (by simp), hreply⟩
    · exact .inr ⟨e, x, y, congrArg (Except.map List.reverse) hrun, .inl hxy, hless⟩

/-- What is said of elements at two places. -/
theorem mem_of_pair {x y : α} (h : [x, y].Sublist xs ∨ [y, x].Sublist xs) :
    x ∈ xs ∧ y ∈ xs ∧ 2 ≤ xs.length :=
  h.elim (fun h => ⟨h.subset (by simp), h.subset (by simp), h.length_le⟩)
    fun h => ⟨h.subset (by simp), h.subset (by simp), h.length_le⟩

theorem arranged_of_sort (h : sort less descending xs = .ok ys) :
    Arranged (Replies less descending xs) xs ys := by
  obtain ⟨found, hfound, harranged⟩ | ⟨e, _, _, herror, -⟩ := sort_cases less descending xs
  · exact Except.ok.inj (hfound.symm.trans h) ▸ harranged
  · simp [herror] at h

/-- Comparisons that agree on a list sort it in the same way. -/
theorem sort_congr {less' : α → α → Except ε Bool}
    (h : ∀ x ∈ xs, ∀ y ∈ xs, less x y = less' x y) :
    sort less descending xs = sort less' descending xs := by
  have hrun (zs : List α) (hzs : zs ⊆ xs) :
      (sortRising zs).run less = (sortRising zs).run less' := by
    have hasks : AsksBack (fun x y => less x y = less' x y) zs :=
      List.pairwise_of_forall_mem_list fun x hx y hy => h y (hzs hy) x (hzs hx)
    have hensures := @sortRising_ensures α _ (fun _ _ _ => True) zs hasks
    exact Ensures.run_congr hensures fun _ _ hxy => hxy
  cases descending with
  | false => exact hrun xs (List.Subset.refl xs)
  | true => exact congrArg (Except.map List.reverse) (hrun _ fun x hx => List.mem_reverse.1 hx)

end Directions

end TableQuery.Sorting
