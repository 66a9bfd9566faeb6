import TableQuery.Proofs.Interleavings
import TableQuery.Sorting

/-!
# Merging

Both searches cut a list at a place where the test turns from passing to failing, whatever it tested
elsewhere. So merging interleaves two runs in such a way that neighbours from different runs are in
order, if the replies at these places are.

* `Sorting.Cuts`: a place where a test turns.
* `Sorting.probe_ensures`: what one test leaves to be found.
* `Sorting.countHalving_ensures`, `Sorting.countGalloping_ensures`: both searches find one.
* `Sorting.Merging.IsSound`: what is moved so far can be completed to an interleaving.
* `Sorting.Merging.step_ensures`, `Sorting.Merging.run_ensures`: one step, and all of them.
* `Sorting.Merges`, `Sorting.mergeRuns_ensures`: merging two runs of a list.
-/

namespace TableQuery.Sorting

open Asking

variable {α : Type} {asks : α → α → Prop} {tells : α → α → Bool → Prop}

/-! ### Searching -/

/-- A place in a list: the element before it passes a test, if there is one, and the element after
it fails, if there is one. -/
structure Cuts (tested : α → Bool → Prop) (xs : List α) (count : Nat) : Prop where
  le : count ≤ xs.length
  before : ∀ x ∈ (xs.take count).getLast?, tested x true
  after : ∀ x ∈ (xs.drop count).head?, tested x false

namespace Cuts

variable {tested : α → Bool → Prop} {xs above : List α} {p : α} {n count : Nat}

theorem nil : Cuts tested [] 0 := ⟨Nat.le_refl 0, by simp, by simp⟩

theorem above_of (hdrop : xs.drop n = p :: above) (hp : tested p true)
    (h : Cuts tested above count) : Cuts tested xs (n + 1 + count) := by
  have hlength := congrArg List.length hdrop
  rw [List.length_drop, List.length_cons] at hlength
  have hback : xs.drop (n + 1 + count) = above.drop count := by
    rw [Nat.add_assoc, ← List.drop_drop, hdrop, Nat.add_comm 1, List.drop_succ_cons]
  have hfront : xs.take (n + 1 + count) = xs.take n ++ p :: above.take count := by
    rw [Nat.add_assoc, List.take_add, hdrop, Nat.add_comm 1, List.take_succ_cons]
  refine ⟨?_, ?_, hback ▸ h.after⟩
  · have hle := h.le
    omega
  · rw [hfront]
    intro x hx
    cases hlast : (above.take count).getLast? with
    | none =>
      obtain rfl : p = x := by simpa [List.getLast?_append, List.getLast?_cons, hlast] using hx
      exact hp
    | some last =>
      obtain rfl : last = x := by simpa [List.getLast?_append, List.getLast?_cons, hlast] using hx
      exact h.before last hlast

theorem below_of (hdrop : xs.drop n = p :: above) (hp : tested p false)
    (h : Cuts tested (xs.take n) count) : Cuts tested xs count := by
  have hsplit : xs = xs.take n ++ p :: above := by rw [← hdrop, List.take_append_drop]
  rw [hsplit]
  refine ⟨?_, ?_, ?_⟩
  · rw [List.length_append]
    exact Nat.le_add_right_of_le h.le
  · rw [List.take_append_of_le_length h.le]
    exact h.before
  · rw [List.drop_append_of_le_length h.le]
    intro x hx
    cases hrest : (xs.take n).drop count with
    | nil =>
      obtain rfl : p = x := by simpa [hrest] using hx
      exact hp
    | cons first rest =>
      obtain rfl : first = x := by simpa [hrest] using hx
      exact h.after first (by simp [hrest])

end Cuts

section Search

variable {tested : α → Bool → Prop} {direction : Direction} {test : α → Asking α Bool}

theorem Direction.middle_lt {n : Nat} (direction : Direction) (h : 0 < n) :
    direction.middle n < n := by
  cases direction <;> simp only [Direction.middle] <;> omega

/-- What is tested at a place, and what is left on both sides of it. -/
theorem mem_of_drop_eq {xs above : List α} {p : α} {n : Nat} (h : xs.drop n = p :: above) :
    p ∈ xs ∧ (∀ x ∈ above, x ∈ xs) ∧ above.length < xs.length ∧ n < xs.length := by
  have hlength := congrArg List.length h
  rw [List.length_drop, List.length_cons] at hlength
  refine ⟨List.mem_of_mem_drop (h ▸ List.mem_cons_self), fun x hx => ?_, by omega, by omega⟩
  exact List.mem_of_mem_drop (h ▸ List.mem_cons_of_mem p hx)

/-- One test leaves a place to be found above it if it passes, and one below it if it fails. -/
theorem probe_ensures {xs above : List α} {p : α} {n : Nat} {up down : Asking α Nat}
    (hdrop : xs.drop n = p :: above) (htest : (test p).Ensures asks tells (tested p))
    (hup : up.Ensures asks tells (Cuts tested above))
    (hdown : down.Ensures asks tells (Cuts tested (xs.take n))) :
    (do if ← test p then return n + 1 + (← up) else down : Asking α Nat).Ensures asks tells
      (Cuts tested xs) := by
  refine htest.bind fun reply hp => ?_
  cases reply with
  | true => exact hup.bind fun count hcount => ensures_pure (.above_of hdrop hp hcount)
  | false => exact hdown.mono fun count hcount => .below_of hdrop hp hcount

/-- Halving finds a place where the test turns. -/
theorem countHalving_ensures {xs : List α} (h : ∀ x ∈ xs, (test x).Ensures asks tells (tested x)) :
    (countHalving direction test xs).Ensures asks tells (Cuts tested xs) := by
  induction hn : xs.length using Nat.strong_induction_on generalizing xs with
  | _ n ih =>
    rw [countHalving]
    split
    · rename_i hdrop
      obtain rfl : xs = [] := by
        have hle : xs.length ≤ direction.middle xs.length := List.drop_eq_nil_iff.1 hdrop
        refine List.length_eq_zero_iff.1 (Nat.eq_zero_of_not_pos fun hpos => ?_)
        exact Nat.not_lt.2 hle (direction.middle_lt hpos)
      exact ensures_pure .nil
    · rename_i p above hdrop
      obtain ⟨hmem, habove, hshort, hmiddle⟩ := mem_of_drop_eq hdrop
      have hbelow : (xs.take (direction.middle xs.length)).length < n := by
        rw [List.length_take]
        omega
      exact probe_ensures hdrop (h p hmem)
        (ih above.length (hn ▸ hshort) (fun x hx => h x (habove x hx)) rfl)
        (ih _ hbelow (fun x hx => h x (List.mem_of_mem_take hx)) rfl)

theorem countDoubling_ensures {xs : List α} (skip : Nat)
    (h : ∀ x ∈ xs, (test x).Ensures asks tells (tested x)) :
    (countDoubling direction test skip xs).Ensures asks tells (Cuts tested xs) := by
  induction hn : xs.length using Nat.strong_induction_on generalizing xs skip with
  | _ n ih =>
    rw [countDoubling]
    split
    · exact countHalving_ensures h
    · rename_i p above hdrop
      obtain ⟨hmem, habove, hshort, -⟩ := mem_of_drop_eq hdrop
      exact probe_ensures hdrop (h p hmem)
        (ih above.length (hn ▸ hshort) _ (fun x hx => h x (habove x hx)) rfl)
        (countHalving_ensures fun x hx => h x (List.mem_of_mem_take hx))

/-- Galloping finds a place where the test turns. -/
theorem countGalloping_ensures {xs : List α}
    (h : ∀ x ∈ xs, (test x).Ensures asks tells (tested x)) :
    (countGalloping direction test xs).Ensures asks tells (Cuts tested xs) := by
  cases xs with
  | nil => exact ensures_pure .nil
  | cons first rest =>
    have hdrop : (first :: rest).drop 0 = first :: rest := rfl
    exact probe_ensures hdrop (h first List.mem_cons_self)
      (countDoubling_ensures 0 fun x hx => h x (List.mem_cons_of_mem _ hx)) (ensures_pure .nil)

end Search

/-! ### Directions -/

/-- What holds of two elements in a direction: backward, they change places. -/
def Direction.turn {ρ : Sort*} (direction : Direction) (f : α → α → ρ) (x y : α) : ρ :=
  match direction with
  | .forward => f x y
  | .backward => f y x

theorem Direction.precedes_ensures (direction : Direction) {x y : α}
    (h : direction.turn asks x y) :
    (direction.precedes x y).Ensures asks tells (direction.turn tells x y) := by
  cases direction <;> exact ensures_isLess h

theorem Direction.stays_ensures (direction : Direction) {x y : α} (h : direction.turn asks y x) :
    (direction.stays x y).Ensures asks tells fun reply => direction.turn tells y x !reply := by
  refine (direction.precedes_ensures h).bind fun reply htells => ensures_pure ?_
  rwa [Bool.not_not]

/-! ### Two runs -/

/-- A list that is made of two runs gone through in a direction: an element of the short run may
stand before one of the long run that does not precede it, and an element of the long run may stand
before one of the short run that it precedes. -/
abbrev Weaves (tells : α → α → Bool → Prop) (direction : Direction) :
    List α → List α → List α → Prop :=
  Interleaves (fun s l => direction.turn tells l s false) fun l s => direction.turn tells l s true

namespace Merging

variable {direction : Direction} {short long : List α} {m next : Merging α}

/-- How many elements are left. -/
def size (m : Merging α) : Nat := m.short.length + m.long.length

/-- A stage in the merging of two runs: any interleaving of what is left goes on to one of the
runs. -/
structure IsSound (asks : α → α → Prop) (tells : α → α → Bool → Prop) (direction : Direction)
    (short long : List α) (m : Merging α) : Prop where
  completes : ∀ zs, Weaves tells direction m.short m.long zs →
    Weaves tells direction short long (m.merged.reverse ++ zs)
  ends : ∀ l ∈ m.long.getLast?, ∀ s ∈ m.short.getLast?, direction.turn tells l s true
  asks : ∀ l ∈ m.long, ∀ s ∈ m.short, direction.turn asks l s

theorem getLast?_drop_mem {xs : List α} {count : Nat} {x : α}
    (h : x ∈ (xs.drop count).getLast?) : x ∈ xs.getLast? := by
  rw [List.getLast?_drop] at h
  split at h
  · simp at h
  · exact h

theorem IsSound.takeShort (h : m.IsSound asks tells direction short long) (count : Nat)
    (hblock : ∀ s ∈ (m.short.take count).getLast?, ∀ l ∈ m.long.head?,
      direction.turn tells l s false) :
    (m.takeShort count).IsSound asks tells direction short long := by
  refine ⟨fun zs hzs => ?_, fun l hl s hs => h.ends l hl s (getLast?_drop_mem hs),
    fun l hl s hs => h.asks l hl s (List.mem_of_mem_drop hs)⟩
  have hmore := hzs.append_left (m.short.take count) hblock
  simp only [Merging.takeShort, List.take_append_drop] at hmore
  simpa [Merging.takeShort] using h.completes _ hmore

theorem IsSound.takeLong (h : m.IsSound asks tells direction short long) (count : Nat)
    (hblock : ∀ l ∈ (m.long.take count).getLast?, ∀ s ∈ m.short.head?,
      direction.turn tells l s true) :
    (m.takeLong count).IsSound asks tells direction short long := by
  refine ⟨fun zs hzs => ?_, fun l hl s hs => h.ends l (getLast?_drop_mem hl) s hs,
    fun l hl s hs => h.asks l (List.mem_of_mem_drop hl) s hs⟩
  have hmore := hzs.append_right (m.long.take count) hblock
  simp only [Merging.takeLong, List.take_append_drop] at hmore
  simpa [Merging.takeLong] using h.completes _ hmore

theorem isDone_eq_false_iff : m.isDone = false ↔ m.long ≠ [] ∧ 1 < m.short.length := by
  simp [isDone]

/-- At the end, what is left goes after what is merged. -/
theorem IsSound.result (h : m.IsSound asks tells direction short long) (hdone : m.isDone = true) :
    Weaves tells direction short long m.result := by
  refine h.completes _ ?_
  have hdone : m.long = [] ∨ m.short.length ≤ 1 := by simpa [isDone] using hdone
  rcases hdone with hlong | hshort
  · rw [hlong]
    exact .of_left m.short
  · match hlist : m.short with
    | [] => simpa using Interleaves.of_right m.long
    | [s] =>
      have hlast : ∀ l ∈ m.long.getLast?, ∀ s' ∈ [s].head?, direction.turn tells l s' true :=
        fun l hl s' hs' => h.ends l hl s' (by simpa [hlist] using hs')
      simpa using (Interleaves.of_left [s]).append_right m.long hlast
    | _ :: _ :: _ => simp [hlist] at hshort

/-! ### Steps -/

theorem pair_ensures (h : m.IsSound asks tells direction short long) (hdone : m.isDone = false) :
    (m.pair direction).Ensures asks tells fun next =>
      next.IsSound asks tells direction short long ∧ next.size < m.size := by
  obtain ⟨hlong, hshort⟩ := isDone_eq_false_iff.1 hdone
  unfold pair
  match hs : m.short, hl : m.long with
  | [], _ => simp [hs] at hshort
  | _, [] => exact absurd hl hlong
  | s :: shorts, l :: longs =>
    refine (direction.precedes_ensures (h.asks l (by simp [hl]) s (by simp [hs]))).bind
      fun reply htells => ?_
    cases reply with
    | true =>
      have hnext := h.takeLong 1 (by simpa [hs, hl] using htells)
      refine ensures_pure ⟨⟨hnext.completes, hnext.ends, hnext.asks⟩, ?_⟩
      simp [size, Merging.takeLong, hs, hl]
    | false =>
      have hnext := h.takeShort 1 (by simpa [hs, hl] using htells)
      refine ensures_pure ⟨⟨hnext.completes, hnext.ends, hnext.asks⟩, ?_⟩
      simp [size, Merging.takeShort, hs, hl]

/-- What a block does: it keeps the stage sound and, unless all is done, moves something. -/
structure Goes (asks : α → α → Prop) (tells : α → α → Bool → Prop) (direction : Direction)
    (short long : List α) (m next : Merging α) : Prop where
  isSound : next.IsSound asks tells direction short long
  le : next.size ≤ m.size
  lt : m.isDone = false → next.size < m.size

theorem Goes.of_lt (h : next.IsSound asks tells direction short long) (hlt : next.size < m.size) :
    m.Goes asks tells direction short long next :=
  ⟨h, hlt.le, fun _ => hlt⟩

theorem Goes.of_done (h : m.IsSound asks tells direction short long) (hdone : m.isDone = true) :
    m.Goes asks tells direction short long m :=
  ⟨h, Nat.le_refl _, fun hnot => by simp [hdone] at hnot⟩

theorem shortBlock_ensures (h : m.IsSound asks tells direction short long) :
    (m.shortBlock direction).Ensures asks tells (m.Goes asks tells direction short long) := by
  unfold shortBlock
  match hl : m.long with
  | [] => exact ensures_pure (.of_done h (by simp [isDone, hl]))
  | l :: longs =>
    by_cases hdone : m.isDone = true
    · simp only [hdone, if_true]
      exact ensures_pure (.of_done h hdone)
    simp only [hdone]
    obtain ⟨-, hshort⟩ := isDone_eq_false_iff.1 (Bool.eq_false_iff.2 hdone)
    refine (countGalloping_ensures fun s hs =>
      direction.stays_ensures (h.asks l (by simp [hl]) s hs)).bind fun count hcuts => ?_
    have hblock := h.takeShort count fun s hs l' hl' => by
      obtain rfl : l = l' := by simpa [hl] using hl'
      exact hcuts.before s hs
    have hmoved : IsSound asks tells direction short long
        { m.takeShort count with shortRow := count } :=
      ⟨hblock.completes, hblock.ends, hblock.asks⟩
    refine ensures_pure ?_
    split
    · rename_i hend
      have hsize : (m.takeShort count).size < m.size := by
        have hleft : m.short.length ≤ 1 + count := by
          simpa [isDone, Merging.takeShort, hl] using hend
        simp only [size, Merging.takeShort, List.length_drop]
        omega
      exact .of_lt hmoved hsize
    · have hnext := hmoved.takeLong 1 fun l' hl' s hs => by
        obtain rfl : l = l' := by simpa [Merging.takeShort, hl] using hl'
        exact hcuts.after s hs
      have hsize : ((m.takeShort count).takeLong 1).size < m.size := by
        simp only [size, Merging.takeShort, Merging.takeLong, List.length_drop, hl,
          List.length_cons]
        omega
      exact .of_lt hnext hsize

theorem longBlock_ensures (h : m.IsSound asks tells direction short long) :
    (m.longBlock direction).Ensures asks tells (m.Goes asks tells direction short long) := by
  unfold longBlock
  match hs : m.short with
  | [] => exact ensures_pure (.of_done h (by simp [isDone, hs]))
  | s :: shorts =>
    by_cases hdone : m.isDone = true
    · simp only [hdone, if_true]
      exact ensures_pure (.of_done h hdone)
    simp only [hdone]
    obtain ⟨hlong, hshort⟩ := isDone_eq_false_iff.1 (Bool.eq_false_iff.2 hdone)
    refine (countGalloping_ensures fun l hl =>
      direction.precedes_ensures (h.asks l hl s (by simp [hs]))).bind fun count hcuts => ?_
    have hblock := h.takeLong count fun l hl s' hs' => by
      obtain rfl : s = s' := by simpa [hs] using hs'
      exact hcuts.before l hl
    have hmoved : IsSound asks tells direction short long
        { m.takeLong count with longRow := count } :=
      ⟨hblock.completes, hblock.ends, hblock.asks⟩
    refine ensures_pure ?_
    split
    · rename_i hend
      have hleft : m.long.length ≤ count := by
        rcases Bool.or_eq_true_iff.1 hend with hnone | hone
        · exact List.drop_eq_nil_iff.1 (List.isEmpty_iff.1 hnone)
        · exact absurd (of_decide_eq_true hone) (Nat.not_le.2 hshort)
      have hsize : (m.takeLong count).size < m.size := by
        have hpos : 0 < m.long.length := List.length_pos_iff.2 hlong
        simp only [size, Merging.takeLong, List.length_drop]
        omega
      exact .of_lt hmoved hsize
    · have hnext := hmoved.takeShort 1 fun s' hs' l hl => by
        obtain rfl : s = s' := by simpa [Merging.takeLong, hs] using hs'
        exact hcuts.after l hl
      have hsize : ((m.takeLong count).takeShort 1).size < m.size := by
        simp only [size, Merging.takeShort, Merging.takeLong, List.length_drop, hs,
          List.length_cons]
        omega
      exact .of_lt hnext hsize

theorem Goes.trans {last : Merging α} (h : m.Goes asks tells direction short long next)
    (h' : next.Goes asks tells direction short long last) :
    m.Goes asks tells direction short long last :=
  ⟨h'.isSound, h'.le.trans h.le, fun hdone => h'.le.trans_lt (h.lt hdone)⟩

theorem blocks_ensures (h : m.IsSound asks tells direction short long) :
    (m.blocks direction).Ensures asks tells (m.Goes asks tells direction short long) := by
  cases direction with
  | forward =>
    exact (shortBlock_ensures h).bind fun next hnext =>
      (longBlock_ensures hnext.isSound).mono fun _ hlast => hnext.trans hlast
  | backward =>
    exact (longBlock_ensures h).bind fun next hnext =>
      (shortBlock_ensures hnext.isSound).mono fun _ hlast => hnext.trans hlast

/-- A step keeps the stage sound and moves something. -/
theorem step_ensures (h : m.IsSound asks tells direction short long) (hdone : m.isDone = false) :
    (m.step direction).Ensures asks tells fun next =>
      next.IsSound asks tells direction short long ∧ next.size < m.size := by
  unfold step
  split
  · split
    · refine (blocks_ensures (m := { m with least := max 1 (m.least - 1) })
        ⟨h.completes, h.ends, h.asks⟩).mono fun _ hnext => ⟨hnext.isSound, hnext.lt hdone⟩
    · refine (pair_ensures (m := { m with
          shortRow := 0, longRow := 0, galloping := false, least := m.least + 1 })
        ⟨h.completes, h.ends, h.asks⟩ hdone).mono fun _ hnext => hnext
  · split
    · refine (blocks_ensures (m := { m with galloping := true })
        ⟨h.completes, h.ends, h.asks⟩).mono fun _ hnext => ⟨hnext.isSound, hnext.lt hdone⟩
    · exact pair_ensures h hdone

/-- Merging to the end interleaves the two runs. -/
theorem run_ensures {bound : Nat} (h : m.IsSound asks tells direction short long)
    (hbound : m.size ≤ bound) :
    (m.run direction bound).Ensures asks tells fun last =>
      Weaves tells direction short long last.result := by
  induction bound generalizing m with
  | zero =>
    have hlong : m.long = [] := List.length_eq_zero_iff.1 (by simp only [size] at hbound; omega)
    exact ensures_pure (h.result (by simp [isDone, hlong]))
  | succ bound ih =>
    unfold run
    split
    · exact ensures_pure (h.result ‹_›)
    · refine (step_ensures h (Bool.eq_false_iff.2 ‹_›)).bind fun next hnext => ?_
      exact ih hnext.1 (by omega)

end Merging

theorem mergeInto_ensures (direction : Direction) (least : Nat) (short long : List α)
    (hasks : ∀ l ∈ long, ∀ s ∈ short, direction.turn asks l s)
    (hfirst : ∀ l ∈ long.head?, ∀ s ∈ short.head?, direction.turn tells l s true)
    (hlast : ∀ l ∈ long.getLast?, ∀ s ∈ short.getLast?, direction.turn tells l s true) :
    (mergeInto direction least short long).Ensures asks tells fun merged =>
      Weaves tells direction short long merged.2 := by
  have hstart : Merging.IsSound asks tells direction short long
      ⟨[], short, long, 0, 0, false, least⟩ := ⟨fun _ h => h, hlast, hasks⟩
  have hnext := hstart.takeLong 1 (by cases long <;> simp_all)
  refine (Merging.run_ensures hnext ?_).bind fun last h => ensures_pure h
  simp only [Merging.size, Merging.takeLong, List.length_drop]
  omega

/-! ### Neighbouring runs -/

/-- A list that is made of two neighbouring runs: an element of the left one may stand before one of
the right one that is not less, and an element of the right one before one of the left one that it
is less than. -/
abbrev Merges (tells : α → α → Bool → Prop) : List α → List α → List α → Prop :=
  Interleaves (fun a b => tells b a false) fun b a => tells b a true

section Runs

variable {left right : List α}

theorem mergeInner_ensures (least : Nat) (hasks : ∀ b ∈ right, ∀ a ∈ left, asks b a)
    (hfirst : ∀ b ∈ right.head?, ∀ a ∈ left.head?, tells b a true)
    (hlast : ∀ b ∈ right.getLast?, ∀ a ∈ left.getLast?, tells b a true) :
    (mergeInner least left right).Ensures asks tells fun merged =>
      Merges tells left right merged.2 := by
  unfold mergeInner
  split
  · exact mergeInto_ensures .forward least left right hasks hfirst hlast
  · refine (mergeInto_ensures .backward least right.reverse left.reverse ?_ ?_ ?_).bind
      fun merged h => ensures_pure ?_
    · exact fun a ha b hb => hasks b (List.mem_reverse.1 hb) a (List.mem_reverse.1 ha)
    · exact fun a ha b hb => hlast b (by simpa using hb) a (by simpa using ha)
    · exact fun a ha b hb => hfirst b (by simpa using hb) a (by simpa using ha)
    · have hturned := h.reverse.swap
      rw [List.reverse_reverse, List.reverse_reverse] at hturned
      exact hturned

/-- Setting elements apart at both ends: those of the left run that the first of the right one does
not precede, and those of the right one that do not precede the last of the left one. -/
theorem Merges.of_inner {before kept : Nat} {merged : List α}
    (h : Merges tells (left.drop before) (right.take kept) merged)
    (hfront : ∀ a ∈ (left.take before).getLast?, ∀ b ∈ right.head?, tells b a false)
    (hback : ∀ a ∈ (left.drop before).getLast?, ∀ b ∈ (right.drop kept).head?, tells b a false) :
    Merges tells left right (left.take before ++ (merged ++ right.drop kept)) := by
  have hmore := h.append_end (right.drop kept) hback
  rw [List.take_append_drop] at hmore
  have hall := hmore.append_left (left.take before) hfront
  rwa [List.take_append_drop] at hall

/-- Merging two neighbouring runs interleaves them. -/
theorem mergeRuns_ensures (least : Nat) (hasks : ∀ b ∈ right, ∀ a ∈ left, asks b a) :
    (mergeRuns least left right).Ensures asks tells fun merged =>
      Merges tells left right merged.2 := by
  unfold mergeRuns
  match hright : right with
  | [] => exact ensures_pure (.of_left left)
  | first :: rest =>
    refine (countGalloping_ensures fun a ha => Direction.forward.stays_ensures
      (hasks first List.mem_cons_self a ha)).bind fun before hbefore => ?_
    have hfront : ∀ a ∈ (left.take before).getLast?, ∀ b ∈ (first :: rest).head?,
        tells b a false := by
      intro a ha b hb
      obtain rfl : first = b := by simpa using hb
      exact hbefore.before a ha
    cases hinner : (left.drop before).getLast? with
    | none =>
      have hleft : left.drop before = [] := List.getLast?_eq_none_iff.1 hinner
      have hright : Merges tells (left.drop before) (first :: rest) (first :: rest) :=
        hleft ▸ .of_right (first :: rest)
      have hmerged := hright.append_left (left.take before) hfront
      rw [List.take_append_drop, List.take_of_length_le (List.drop_eq_nil_iff.1 hleft)] at hmerged
      exact ensures_pure hmerged
    | some last =>
      refine (countGalloping_ensures fun b hb => Direction.backward.stays_ensures
        (hasks b (List.mem_reverse.1 hb) last (List.mem_of_mem_drop
          (List.mem_of_getLast? hinner)))).bind fun after hafter => ?_
      obtain ⟨-, hback, hkept⟩ := hafter
      rw [List.take_reverse, List.getLast?_reverse] at hback
      rw [List.drop_reverse, List.head?_reverse] at hkept
      refine (mergeInner_ensures least (fun b hb a ha => hasks b (List.mem_of_mem_take hb) a
        (List.mem_of_mem_drop ha)) (fun b hb a ha => ?_) fun b hb a ha => ?_).bind
          fun merged hmerged => ensures_pure (.of_inner hmerged hfront fun a ha b hb => ?_)
      · obtain rfl : first = b := by
          rw [List.head?_take] at hb
          split at hb
          · simp at hb
          · simpa using hb
        exact hbefore.after a ha
      · obtain rfl : last = a := by simpa [hinner] using ha
        exact hkept b hb
      · obtain rfl : last = a := by simpa [hinner] using ha
        exact hback b hb

end Runs

end TableQuery.Sorting
