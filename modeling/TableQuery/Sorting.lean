import TableQuery.Asking

/-!
# Sorting

The order in which comparisons are made shows in the result when the comparison is not
transitive, so it is part of the definition.

A list is cut into runs that rise. A run that is short is made longer by inserting the elements
after it. As runs are found, neighbours are merged, in an order that depends on where they stand in
the list; merging gallops where one run gives many elements in a row.

* `Sorting.initialRun`: the run at the front of a list; falling runs are turned round.
* `Sorting.countHalving`, `Sorting.countGalloping`: two searches for the end of the elements that
  pass a test.
* `Sorting.insert`: insertion after halving the sorted part.
* `Sorting.Merging`: two runs that are being merged, with `Merging.step` and `Merging.run`.
* `Sorting.mergeRuns`: two runs merged.
* `Sorting.power`: the power of the border between two runs.
* `Sorting.sort`: sorting in either direction; for a descending order the list is reversed before
  and after, so that equal elements keep their order.
-/

namespace TableQuery.Sorting

open Asking

variable {α ε : Type}

/-! ### Runs -/

/-- Follow a run that falls at every element, or at none. Its elements so far are kept with the last
one first. -/
def followRun (falling : Bool) (last : α) (before : List α) : List α → Asking α (List α)
  | [] => return last :: before
  | next :: rest => do
    if (← isLess next last) == falling then followRun falling next (last :: before) rest
    else return last :: before

/-- The run at the front of a list, in rising order. -/
def initialRun (first : α) : List α → Asking α (List α)
  | [] => return [first]
  | next :: rest => do
    if ← isLess next first then followRun true next [first] rest
    else return (← followRun false next [first] rest).reverse

/-! ### Searching -/

/-- The direction in which runs are gone through. Going backward, they are turned round. -/
inductive Direction
  | forward
  | backward

/-- The middle of a number of elements, counted in a direction. -/
def Direction.middle : Direction → Nat → Nat
  | .forward, n => n / 2
  | .backward, n => (n - 1) / 2

/-- Ask whether one element has to come before another one, in a direction. -/
def Direction.precedes : Direction → α → α → Asking α Bool
  | .forward, x, y => isLess x y
  | .backward, x, y => isLess y x

/-- Ask whether an element may stay before another one, in a direction. -/
def Direction.stays (direction : Direction) (x y : α) : Asking α Bool :=
  return !(← direction.precedes y x)

/-- How many elements at the front pass a test, found by halving. -/
def countHalving (direction : Direction) (test : α → Asking α Bool) (xs : List α) :
    Asking α Nat :=
  match h : xs.drop (direction.middle xs.length) with
  | [] => return 0
  | p :: above => do
    if ← test p then
      return direction.middle xs.length + 1 + (← countHalving direction test above)
    else countHalving direction test (xs.take (direction.middle xs.length))
termination_by xs.length
decreasing_by
  all_goals
    have hlength := congrArg List.length h
    simp only [List.length_drop, List.length_cons, List.length_take] at hlength ⊢
    omega

/-- How many elements pass a test, found by trying one after skipping some, and doubling what is
skipped as long as it passes. -/
def countDoubling (direction : Direction) (test : α → Asking α Bool) (skip : Nat)
    (xs : List α) : Asking α Nat :=
  match h : xs.drop skip with
  | [] => countHalving direction test xs
  | p :: above => do
    if ← test p then return skip + 1 + (← countDoubling direction test (2 * skip + 1) above)
    else countHalving direction test (xs.take skip)
termination_by xs.length
decreasing_by
  have hlength := congrArg List.length h
  simp only [List.length_drop, List.length_cons] at hlength ⊢
  omega

/-- How many elements at the front pass a test, found by galloping. -/
def countGalloping (direction : Direction) (test : α → Asking α Bool) : List α → Asking α Nat
  | [] => return 0
  | first :: rest => do
    if ← test first then return 1 + (← countDoubling direction test 0 rest) else return 0

/-! ### Insertion -/

/-- Insert into a sorted list, after the elements that are not greater. -/
def insert (x : α) (sorted : List α) : Asking α (List α) := do
  let count ← countHalving .forward (fun y => Direction.forward.stays y x) sorted
  return sorted.take count ++ x :: sorted.drop count

/-- Insert elements one after the other. -/
def insertAll (sorted : List α) : List α → Asking α (List α)
  | [] => return sorted
  | x :: xs => do insertAll (← insert x sorted) xs

/-- The run at the front of a list, made longer up to a least length as far as the list goes. -/
def nextRun (leastLength : Nat) (first : α) (rest : List α) : Asking α (List α) := do
  let run ← initialRun first rest
  insertAll run ((rest.drop (run.length - 1)).take (leastLength - run.length))

/-! ### Merging -/

/-- How many elements in a row keep merging at a gallop, and how many start it at first. -/
def leastGallop : Nat := 7

/-- Two runs that are being merged. The elements of the short one precede those of the long one that
they are level with. -/
structure Merging (α : Type) where
  /-- What is merged so far, last element first. -/
  merged : List α
  short : List α
  long : List α
  /-- How many elements each of the runs has given in a row. -/
  shortRow : Nat
  longRow : Nat
  galloping : Bool
  /-- How many elements in a row start a gallop. -/
  least : Nat

namespace Merging

/-- What is left of the runs is in order: the long run is used up, or one element at most of the
short run is left, which comes last. -/
def isDone (m : Merging α) : Bool :=
  m.long.isEmpty || m.short.length ≤ 1

/-- Move elements of the short run. -/
def takeShort (count : Nat) (m : Merging α) : Merging α :=
  { m with merged := (m.short.take count).reverse ++ m.merged, short := m.short.drop count }

/-- Move elements of the long run. -/
def takeLong (count : Nat) (m : Merging α) : Merging α :=
  { m with merged := (m.long.take count).reverse ++ m.merged, long := m.long.drop count }

/-- Move the element that comes first. -/
def pair (direction : Direction) (m : Merging α) : Asking α (Merging α) :=
  match m.short, m.long with
  | s :: _, l :: _ => do
    if ← direction.precedes l s then
      return { m.takeLong 1 with shortRow := 0, longRow := m.longRow + 1 }
    else return { m.takeShort 1 with shortRow := m.shortRow + 1, longRow := 0 }
  | _, _ => return m

/-- Move the elements of the short run that come before the first of the long run, and this one. -/
def shortBlock (direction : Direction) (m : Merging α) : Asking α (Merging α) :=
  match m.long with
  | l :: _ =>
    if m.isDone then return m
    else do
      let count ← countGalloping direction (fun s => direction.stays s l) m.short
      let next := { m.takeShort count with shortRow := count }
      return if next.isDone then next else next.takeLong 1
  | [] => return m

/-- Move the elements of the long run that come before the first of the short run, and this one. -/
def longBlock (direction : Direction) (m : Merging α) : Asking α (Merging α) :=
  match m.short with
  | s :: _ =>
    if m.isDone then return m
    else do
      let count ← countGalloping direction (fun l => direction.precedes l s) m.long
      let next := { m.takeLong count with longRow := count }
      return if next.isDone then next else next.takeShort 1
  | [] => return m

/-- Move a block of each run. The one from the run that comes first in the list is moved first. -/
def blocks (direction : Direction) (m : Merging α) : Asking α (Merging α) :=
  match direction with
  | .forward => do (← m.shortBlock direction).longBlock direction
  | .backward => do (← m.longBlock direction).shortBlock direction

/-- One step: at a gallop, as long as one of the blocks is long enough, and otherwise by one element
until one run gives enough of them in a row. A gallop that goes on makes the next one start earlier,
and one that ends makes it start later. -/
def step (direction : Direction) (m : Merging α) : Asking α (Merging α) :=
  if m.galloping then
    if leastGallop ≤ m.shortRow || leastGallop ≤ m.longRow then
      blocks direction { m with least := max 1 (m.least - 1) }
    else
      pair direction
        { m with shortRow := 0, longRow := 0, galloping := false, least := m.least + 1 }
  else if m.least ≤ m.shortRow || m.least ≤ m.longRow then
    blocks direction { m with galloping := true }
  else pair direction m

/-- Merge to the end. Every step moves an element, so that as many steps as there are elements are
enough. -/
def run (direction : Direction) : (bound : Nat) → Merging α → Asking α (Merging α)
  | 0, m => return m
  | bound + 1, m => if m.isDone then return m else do run direction bound (← m.step direction)

/-- What is merged, and what is left after it. -/
def result (m : Merging α) : List α :=
  m.merged.reverse ++ (m.long ++ m.short)

end Merging

/-- Merge a short run and a long one, whose first element precedes the short run and whose last one
precedes the last one of it. -/
def mergeInto (direction : Direction) (least : Nat) (short long : List α) :
    Asking α (Nat × List α) := do
  let start : Merging α := ⟨[], short, long, 0, 0, false, least⟩
  let done ← (start.takeLong 1).run direction (short.length + long.length)
  return (done.least, done.result)

/-- Merge two neighbouring runs, going through the shorter one from where its elements and those of
the other one are first compared: forward from the front, backward from the end. -/
def mergeInner (least : Nat) (left right : List α) : Asking α (Nat × List α) :=
  if left.length ≤ right.length then mergeInto .forward least left right
  else do
    let (least, turned) ← mergeInto .backward least right.reverse left.reverse
    return (least, turned.reverse)

/-- Merge two neighbouring runs. The elements at both ends that need not move are set apart. -/
def mergeRuns (least : Nat) (left right : List α) : Asking α (Nat × List α) :=
  match right with
  | [] => return (least, left)
  | first :: _ => do
    let before ← countGalloping .forward (fun x => Direction.forward.stays x first) left
    match (left.drop before).getLast? with
    | none => return (least, left ++ right)
    | some last => do
      let after ← countGalloping .backward (fun y => Direction.backward.stays y last) right.reverse
      let kept := right.length - after
      let (least, merged) ← mergeInner least (left.drop before) (right.take kept)
      return (least, left.take before ++ (merged ++ right.drop kept))

/-! ### The order of merging -/

/-- The first binary place at which two fractions with a common denominator differ. As many steps as
the denominator says are enough for fractions that are not nearer to each other than its inverse. -/
def differingPlace (denominator : Nat) : (bound a b : Nat) → Nat
  | 0, _, _ => 0
  | bound + 1, a, b =>
    if denominator ≤ a then
      differingPlace denominator bound (2 * (a - denominator)) (2 * (b - denominator)) + 1
    else if denominator ≤ b then 1
    else differingPlace denominator bound (2 * a) (2 * b) + 1

/-- The power of the border between two neighbouring runs of a list: the first binary place at which
their middles, as fractions of the list, differ. -/
def power (total start left right : Nat) : Nat :=
  differingPlace total total (2 * start + left) (2 * start + 2 * left + right)

/-- The runs that are found and not yet merged, the last one first, each with the power of the
border after it. -/
abbrev Stack (α : Type) := List (List α × Nat)

/-- Merge the last run with those before it, as long as the power of the border between is greater
than a given one. -/
def collapse (power : Nat) (least : Nat) (last : List α) :
    Stack α → Asking α (Nat × List α × Stack α)
  | [] => return (least, last, [])
  | (before, border) :: stack => do
    if power < border then
      let (least, merged) ← mergeRuns least before last
      collapse power least merged stack
    else return (least, last, (before, border) :: stack)

/-- Add a run, after merging what comes before it. -/
def push (total least : Nat) (run : List α) : Stack α → Asking α (Nat × Stack α)
  | [] => return (least, [(run, 0)])
  | (last, _) :: stack => do
    let start := (stack.flatMap Prod.fst).length
    let border := power total start last.length run.length
    let (least, last, stack) ← collapse border least last stack
    return (least, (run, 0) :: (last, border) :: stack)

/-- Merge all runs, the last one first in the list: the last two, or the two before the last if the
earlier of them is shorter than the last. -/
def mergeAll (least : Nat) (runs : List (List α)) : Asking α (List α) :=
  match runs with
  | [] => return []
  | [run] => return run
  | [last, before] => do return (← mergeRuns least before last).2
  | last :: before :: early :: runs => do
    if early.length < last.length then
      let (least, merged) ← mergeRuns least early before
      mergeAll least (last :: merged :: runs)
    else
      let (least, merged) ← mergeRuns least before last
      mergeAll least (merged :: early :: runs)
termination_by runs.length

/-! ### Sorting -/

/-- The least length of a run: a short list as a whole, and otherwise the leading six binary digits
of its length, with one more if any digit after them is not zero. -/
def leastRun (isOdd : Nat) (n : Nat) : Nat :=
  if n < 64 then n + isOdd else leastRun (max isOdd (n % 2)) (n / 2)

/-- Find the runs of what is left of a list, and merge. -/
def sortFrom (total leastLength least : Nat) (stack : Stack α) (xs : List α) :
    Asking α (List α) :=
  match xs with
  | [] => mergeAll least (stack.map Prod.fst)
  | first :: rest => do
    let run ← nextRun leastLength first rest
    let (least, stack) ← push total least run stack
    sortFrom total leastLength least stack (rest.drop (run.length - 1))
termination_by xs.length
decreasing_by
  simp only [List.length_drop, List.length_cons]
  omega

/-- Sort in rising order. -/
def sortRising (xs : List α) : Asking α (List α) :=
  sortFrom xs.length (leastRun 0 xs.length) leastGallop [] xs

/-- Sort in either direction, by a comparison that can fail. -/
def sort (less : α → α → Except ε Bool) (descending : Bool) (xs : List α) : Except ε (List α) :=
  if descending then ((sortRising xs.reverse).run less).map List.reverse
  else (sortRising xs).run less

end TableQuery.Sorting
