import Mathlib.Data.List.Induction
import Mathlib.Data.List.Nodup
import TableQuery.Store

/-!
# Tables under their identifiers

Adding, replacing and deleting tables makes a store in memory a map from identifiers to tables that
also keeps the tables in order, as long as no table is added under an identifier that is taken.

* `TableChange`, `TableChange.run`: a change of a single table.
* `TableChange.apply`: what it makes of a list of tables.
* `TableChange.find?_apply`, `TableChange.nodup_apply`, `TableChange.filter_apply`: one change.
* `Store.afterChanges`, `Store.AddsFresh`: changes in turn, and additions under identifiers that are
  not taken.
* `Store.IsLastUnder`: the table that was last written under an identifier and is still there.
* `Store.afterChanges_keyed`: any number of changes.
-/

namespace TableQuery

/-! ### Changes -/

/-- A change of a single table of a store. -/
inductive TableChange
  | add (table : Table)
  | replace (updated : Table)
  | delete (id : Text)

namespace TableChange

/-- The identifier that a change is about. -/
def id : TableChange → Text
  | .add table => table.id
  | .replace updated => updated.id
  | .delete id => id

/-- Carry a change out. -/
def run : TableChange → Store → Step Unit
  | .add table => Store.add table
  | .replace updated => Store.replace updated
  | .delete id => Store.delete id

/-- The tables after a change. -/
def apply : TableChange → List Table → List Table
  | .add table, tables => tables ++ [table]
  | .replace updated, tables => Store.replaceFirst updated tables
  | .delete id, tables => tables.filter fun table => table.id != id

/-- What is under the identifier of a change after it, given what was there before. -/
def entry : TableChange → Option Table → Option Table
  | .add table, _ => some table
  | .replace updated, old => old.map fun _ => updated
  | .delete _, _ => none

theorem entry_eq_some_iff {change : TableChange} {old : Option Table} {table : Table} :
    change.entry old = some table ↔
      change = .add table ∨ change = .replace table ∧ old.isSome = true := by
  cases change with
  | add added => simp [entry]
  | replace updated => cases old <;> simp [entry]
  | delete id => simp [entry]

end TableChange

/-! ### Replacing -/

section Replace

variable {tables : List Table} {updated : Table}

theorem replaceFirst_eq_self (h : ∀ other ∈ tables, other.id ≠ updated.id) :
    Store.replaceFirst updated tables = tables := by
  induction tables with
  | nil => rfl
  | cons first rest ih =>
    obtain ⟨hfirst, hrest⟩ := List.forall_mem_cons.1 h
    rw [Store.replaceFirst, if_neg hfirst, ih hrest]

theorem map_id_replaceFirst (updated : Table) (tables : List Table) :
    (Store.replaceFirst updated tables).map Table.id = tables.map Table.id := by
  induction tables with
  | nil => rfl
  | cons first rest ih =>
    rw [Store.replaceFirst]
    split
    · rename_i hfirst
      rw [List.map_cons, List.map_cons, hfirst]
    · rw [List.map_cons, List.map_cons, ih]

theorem find?_replaceFirst (updated : Table) (tables : List Table) (id : Text) :
    ((Store.replaceFirst updated tables).find? fun table => table.id == id) =
      if updated.id = id then (tables.find? fun table => table.id == id).map fun _ => updated
      else tables.find? fun table => table.id == id := by
  induction tables with
  | nil => simp [Store.replaceFirst]
  | cons first rest ih =>
    rw [Store.replaceFirst]
    by_cases hfirst : first.id = updated.id <;> by_cases hid : updated.id = id <;>
      simp_all [List.find?_cons]

theorem filter_replaceFirst (updated : Table) (tables : List Table) :
    (Store.replaceFirst updated tables).filter (fun table => table.id != updated.id) =
      tables.filter fun table => table.id != updated.id := by
  induction tables with
  | nil => rfl
  | cons first rest ih =>
    rw [Store.replaceFirst]
    by_cases hfirst : first.id = updated.id <;> simp [hfirst, ih]

end Replace

/-! ### One change -/

namespace TableChange

variable {tables : List Table} {change : TableChange}

/-- A table that is added has an identifier that no table has yet. -/
def IsFresh (change : TableChange) (tables : List Table) : Prop :=
  ∀ table, change = .add table → ∀ other ∈ tables, other.id ≠ table.id

theorem run_memory (change : TableChange) (tables : List Table) (ids : IdSupply) :
    (change.run ⟨.memory tables, ids⟩).answer = .ok () ∧
      (change.run ⟨.memory tables, ids⟩).store = ⟨.memory (change.apply tables), ids⟩ := by
  cases change with
  | add table => exact ⟨rfl, rfl⟩
  | delete deleted => exact ⟨rfl, rfl⟩
  | replace updated =>
    simp only [run, apply, Store.replace, Store.load, Step.andThen]
    split
    · exact ⟨rfl, rfl⟩
    · rename_i hany
      have hnone : ∀ other ∈ tables, other.id ≠ updated.id := by simpa using hany
      exact ⟨rfl, by rw [replaceFirst_eq_self hnone]⟩

/-- A change decides on what is found under its own identifier, and on nothing else. -/
theorem find?_apply (hfresh : change.IsFresh tables) (key : Text) :
    ((change.apply tables).find? fun table => table.id == key) =
      if change.id = key then change.entry (tables.find? fun table => table.id == key)
      else tables.find? fun table => table.id == key := by
  cases change with
  | add table =>
    have hnone : (tables.find? fun other => other.id == table.id) = none := by
      simpa using hfresh table rfl
    by_cases hkey : table.id = key
    · subst hkey
      simp [apply, id, entry, hnone]
    · simp [apply, id, hkey]
  | replace updated => exact find?_replaceFirst updated tables key
  | delete deleted =>
    by_cases hkey : deleted = key
    · subst hkey
      simp [apply, id, entry]
    · rw [apply, List.find?_filter, id, if_neg hkey]
      congr 1
      funext table
      by_cases htable : table.id = key <;> simp [htable, Ne.symm hkey]

theorem nodup_apply (hfresh : change.IsFresh tables) (hids : (tables.map Table.id).Nodup) :
    ((change.apply tables).map Table.id).Nodup := by
  cases change with
  | add table =>
    rw [apply, List.map_append, List.map_singleton, List.nodup_append]
    refine ⟨hids, List.nodup_singleton _, fun id hid other hother => ?_⟩
    obtain ⟨old, hold, rfl⟩ := List.mem_map.1 hid
    rw [List.mem_singleton.1 hother]
    exact hfresh table rfl old hold
  | replace updated =>
    rw [apply, map_id_replaceFirst]
    exact hids
  | delete deleted => exact hids.sublist (List.filter_sublist.map _)

/-- The tables with other identifiers keep their values and their order. -/
theorem filter_apply (change : TableChange) (tables : List Table) :
    (change.apply tables).filter (fun table => table.id != change.id) =
      tables.filter fun table => table.id != change.id := by
  cases change with
  | add table => simp [apply, id]
  | replace updated => exact filter_replaceFirst updated tables
  | delete deleted => simp [apply, id]

end TableChange

/-! ### Changes in turn -/

section Histories

variable {α : Type} {as front back : List α} {a b : α}

/-- A member of a list with one more at its end is that one, or a member of the list. -/
theorem concat_eq_append_cons_iff : as ++ [a] = front ++ b :: back ↔
    front = as ∧ b = a ∧ back = [] ∨ ∃ rest, back = rest ++ [a] ∧ as = front ++ b :: rest := by
  constructor
  · intro h
    rcases List.eq_nil_or_concat back with rfl | ⟨rest, last, rfl⟩
    · obtain ⟨rfl, hlast⟩ := List.append_inj' h rfl
      exact Or.inl ⟨rfl, (List.singleton_inj.1 hlast).symm, rfl⟩
    · rw [List.concat_eq_append] at h ⊢
      rw [← List.cons_append, ← List.append_assoc] at h
      obtain ⟨rfl, hlast⟩ := List.append_inj' h rfl
      obtain rfl := List.singleton_inj.1 hlast
      exact Or.inr ⟨rest, rfl, rfl⟩
  · rintro (⟨rfl, rfl, rfl⟩ | ⟨rest, rfl, rfl⟩)
    · rfl
    · simp

end Histories

namespace Store

/-- A store has a table with an identifier. -/
def Has (store : Store) (id : Text) : Prop :=
  ∃ tables, store.load.answer = .ok tables ∧ ∃ table ∈ tables, table.id = id

/-- The store after some changes. -/
def afterChanges (store : Store) (changes : List TableChange) : Store :=
  changes.foldl (fun store change => (change.run store).store) store

/-- Whenever a table is added, the store has no table with its identifier. -/
def AddsFresh (store : Store) (changes : List TableChange) : Prop :=
  ∀ front table back, changes = front ++ .add table :: back →
    ¬(store.afterChanges front).Has table.id

/-- The table that was last written under an identifier and is still there. Either it was there
from the start and no change was about the identifier, or it was added, or put in place of one that
was there, and no later change was about the identifier. -/
def IsLastUnder (store : Store) (changes : List TableChange) (id : Text) (table : Table) : Prop :=
  ((∃ tables, store.load.answer = .ok tables ∧ table ∈ tables) ∧ table.id = id ∧
      ∀ change ∈ changes, change.id ≠ id) ∨
    ∃ front change back, changes = front ++ change :: back ∧ table.id = id ∧
      (change = .add table ∨ change = .replace table ∧ (store.afterChanges front).Has id) ∧
      ∀ later ∈ back, later.id ≠ id

variable {store : Store} {tables : List Table} {ids : IdSupply} {changes : List TableChange}
  {change : TableChange} {id : Text} {table : Table}

theorem has_memory : Has ⟨.memory tables, ids⟩ id ↔ ∃ table ∈ tables, table.id = id := by
  constructor
  · rintro ⟨loaded, hload, htable⟩
    obtain rfl : tables = loaded := Except.ok.inj hload
    exact htable
  · exact fun h => ⟨tables, rfl, h⟩

theorem afterChanges_concat (store : Store) (changes : List TableChange) (change : TableChange) :
    store.afterChanges (changes ++ [change]) = (change.run (store.afterChanges changes)).store := by
  simp [afterChanges]

theorem AddsFresh.front {more : List TableChange} (h : store.AddsFresh (changes ++ more)) :
    store.AddsFresh changes := by
  intro front table back hchanges
  exact h front table (back ++ more) (by simp [hchanges])

/-- What is under an identifier is decided by the last change that is about it. -/
theorem isLastUnder_concat : store.IsLastUnder (changes ++ [change]) id table ↔
    if change.id = id then
      change = .add table ∨ change = .replace table ∧ (store.afterChanges changes).Has id
    else store.IsLastUnder changes id table := by
  have hid_of_written (hwritten : change = .add table ∨
      change = .replace table ∧ (store.afterChanges changes).Has id) : table.id = change.id := by
    rcases hwritten with rfl | ⟨rfl, -⟩ <;> rfl
  split
  · rename_i hid
    constructor
    · rintro (⟨-, -, hnone⟩ | ⟨front, written, back, hchanges, -, hwritten, hback⟩)
      · exact absurd hid (hnone change (by simp))
      · rcases concat_eq_append_cons_iff.1 hchanges with ⟨rfl, rfl, rfl⟩ | ⟨back, rfl, rfl⟩
        · exact hwritten
        · exact absurd hid (hback change (by simp))
    · intro hwritten
      exact Or.inr ⟨changes, change, [], rfl, (hid_of_written hwritten).trans hid, hwritten,
        List.forall_mem_nil _⟩
  · rename_i hid
    constructor
    · rintro (⟨hstart, htable, hnone⟩ | ⟨front, written, back, hchanges, htable, hwritten, hback⟩)
      · exact Or.inl ⟨hstart, htable, (List.forall_mem_append.1 hnone).1⟩
      · rcases concat_eq_append_cons_iff.1 hchanges with ⟨rfl, rfl, rfl⟩ | ⟨back, rfl, rfl⟩
        · exact absurd ((hid_of_written hwritten).symm.trans htable) hid
        · exact Or.inr ⟨front, written, back, rfl, htable, hwritten,
            (List.forall_mem_append.1 hback).1⟩
    · rintro (⟨hstart, htable, hnone⟩ | ⟨front, written, back, rfl, htable, hwritten, hback⟩)
      · exact Or.inl ⟨hstart, htable, List.forall_mem_append.2
          ⟨hnone, List.forall_mem_singleton.2 hid⟩⟩
      · exact Or.inr ⟨front, written, back ++ [change], by simp, htable, hwritten,
          List.forall_mem_append.2 ⟨hback, List.forall_mem_singleton.2 hid⟩⟩

/-- Where all identifiers differ, a table is found under its own. -/
theorem find?_id_eq_some_iff (hids : (tables.map Table.id).Nodup) :
    (tables.find? fun table => table.id == id) = some table ↔ table ∈ tables ∧ table.id = id := by
  constructor
  · intro h
    exact ⟨List.mem_of_find?_eq_some h, by simpa using List.find?_some h⟩
  · rintro ⟨hmem, rfl⟩
    have hsome : (tables.find? fun other => other.id == table.id).isSome = true :=
      List.find?_isSome.2 ⟨table, hmem, beq_self_eq_true table.id⟩
    obtain ⟨found, hfound⟩ := Option.isSome_iff_exists.1 hsome
    have hid : found.id = table.id := by simpa using List.find?_some hfound
    rw [hfound, List.inj_on_of_nodup_map hids (List.mem_of_find?_eq_some hfound) hmem hid]

/-- The tables after some changes have different identifiers, and under each identifier is the table
that was last written there. -/
theorem afterChanges_memory (hids : (tables.map Table.id).Nodup)
    (hfresh : AddsFresh ⟨.memory tables, ids⟩ changes) :
    ∃ later, afterChanges ⟨.memory tables, ids⟩ changes = ⟨.memory later, ids⟩ ∧
      (later.map Table.id).Nodup ∧
      ∀ id table, (later.find? fun other => other.id == id) = some table ↔
        IsLastUnder ⟨.memory tables, ids⟩ changes id table := by
  induction changes using List.reverseRecOn with
  | nil =>
    refine ⟨tables, rfl, hids, fun id table => ?_⟩
    rw [find?_id_eq_some_iff hids]
    constructor
    · rintro ⟨hmem, hid⟩
      exact Or.inl ⟨⟨tables, rfl, hmem⟩, hid, List.forall_mem_nil _⟩
    · rintro (⟨⟨loaded, hload, hmem⟩, hid, -⟩ | ⟨front, change, back, hchanges, -⟩)
      · obtain rfl : tables = loaded := Except.ok.inj hload
        exact ⟨hmem, hid⟩
      · simp at hchanges
  | append_singleton changes change ih =>
    obtain ⟨before, hbefore, hnodup, hfind⟩ := ih hfresh.front
    have hfresh' : change.IsFresh before := by
      rintro table rfl other hother hid
      refine hfresh changes table [] rfl ?_
      rw [hbefore, has_memory]
      exact ⟨other, hother, hid⟩
    refine ⟨change.apply before, ?_, TableChange.nodup_apply hfresh' hnodup, fun id table => ?_⟩
    · rw [afterChanges_concat, hbefore, (change.run_memory before ids).2]
    · rw [TableChange.find?_apply hfresh', isLastUnder_concat, hbefore, has_memory]
      split
      · rw [TableChange.entry_eq_some_iff, List.find?_isSome]
        simp only [beq_iff_eq]
      · exact hfind id table

/-- Starting from tables with different identifiers, and adding none under an identifier that is
taken, tables can be added, replaced and deleted any number of times. The identifiers stay
different. Under an identifier is found the table that was last added or replaced under it, unless
it was deleted since, and nothing otherwise. Under a name is found the first table of that name.
Each change leaves the tables with other identifiers as they are, in the same order, and replacing a
table that is not there changes nothing. -/
theorem afterChanges_keyed (hids : (tables.map Table.id).Nodup)
    (hfresh : AddsFresh ⟨.memory tables, ids⟩ changes) :
    let store : Store := ⟨.memory tables, ids⟩
    ∃ later, store.afterChanges changes = ⟨.memory later, ids⟩ ∧ (later.map Table.id).Nodup ∧
      (∀ id, ∃ found, ((store.afterChanges changes).find? id).answer = .ok found ∧
        ∀ table, found = some table ↔ store.IsLastUnder changes id table) ∧
      (∀ name, ∃ found,
        ((store.afterChanges changes).findByName? (.scalar (.text name))).answer = .ok found ∧
        ∀ table, found = some table ↔ ∃ front back, later = front ++ table :: back ∧
          table.isNamed name = true ∧ ∀ other ∈ front, other.isNamed name = false) ∧
      ∀ front change, front ++ [change] <+: changes → ∃ before after,
        store.afterChanges front = ⟨.memory before, ids⟩ ∧
        (change.run (store.afterChanges front)).answer = .ok () ∧
        store.afterChanges (front ++ [change]) = ⟨.memory after, ids⟩ ∧
        after.filter (fun table => table.id != change.id) =
          before.filter (fun table => table.id != change.id) ∧
        ∀ updated, change = .replace updated → (∀ other ∈ before, other.id ≠ updated.id) →
          after = before := by
  intro store
  obtain ⟨later, hlater, hnodup, hfind⟩ := afterChanges_memory hids hfresh
  refine ⟨later, hlater, hnodup, fun id => ?_, fun name => ?_, fun front change hfront => ?_⟩
  · refine ⟨later.find? fun table => table.id == id, ?_, hfind id⟩
    rw [hlater]
    rfl
  · refine ⟨later.find? fun table => table.isNamed name, ?_, fun table => ?_⟩
    · rw [hlater]
      rfl
    · rw [List.find?_eq_some_iff_append]
      simp only [Bool.not_eq_true', ← exists_and_left]
      constructor
      · rintro ⟨front, back, hname, hcut, hother⟩
        exact ⟨front, back, hcut, hname, hother⟩
      · rintro ⟨front, back, hcut, hname, hother⟩
        exact ⟨front, back, hname, hcut, hother⟩
  · obtain ⟨rest, rfl⟩ := hfront
    obtain ⟨before, hbefore, -⟩ := afterChanges_memory hids hfresh.front.front
    obtain ⟨hanswer, hstore⟩ := change.run_memory before ids
    refine ⟨before, change.apply before, hbefore, ?_, ?_, change.filter_apply before, ?_⟩
    · rw [hbefore, hanswer]
    · rw [afterChanges_concat, hbefore, hstore]
    · rintro updated rfl hnone
      exact replaceFirst_eq_self hnone

/-- A table is deleted, another one added under its identifier and replaced, and one that is not
there is replaced in vain. -/
theorem afterChanges_keyed_added_again :
    let first : Table := ⟨"1", .scalar (.text "T"), ["a"], []⟩
    let second : Table := ⟨"2", .scalar (.text "U"), [], []⟩
    let third : Table := ⟨"1", .scalar (.text "U"), ["b"], []⟩
    let absent : Table := ⟨"3", .scalar (.text "T"), [], []⟩
    let store : Store := ⟨.memory [first, second], .ofSequence uuidText⟩
    let changes : List TableChange :=
      [.delete "1", .add { third with columns := [] }, .replace third, .replace absent]
    ([first, second].map Table.id).Nodup ∧ store.AddsFresh changes ∧
      store.IsLastUnder changes "1" third ∧ ¬(∃ table, store.IsLastUnder changes "3" table) ∧
      ((store.afterChanges changes).find? "1").answer = .ok (some third) ∧
      ((store.afterChanges changes).find? "3").answer = .ok none ∧
      ((store.afterChanges changes).findByName? (.scalar (.text "U"))).answer =
        .ok (some second) := by
  intro first second third absent store changes
  have hids : ([first, second].map Table.id).Nodup := by decide
  have hfresh : store.AddsFresh changes := by
    intro front table back hchanges
    rcases front with _ | ⟨one, _ | ⟨two, _ | ⟨three, _ | ⟨four, front⟩⟩⟩⟩ <;>
      simp only [changes, List.nil_append, List.cons_append, List.cons.injEq, reduceCtorEq,
        TableChange.add.injEq, false_and, and_false] at hchanges
    · obtain ⟨rfl, rfl, -⟩ := hchanges
      rintro ⟨loaded, hload, other, hother, hid⟩
      obtain rfl : [second] = loaded := Except.ok.inj hload
      obtain rfl := List.mem_singleton.1 hother
      exact absurd hid (by decide)
    · simp at hchanges
  have hfirst : ((store.afterChanges changes).find? "1").answer = .ok (some third) := by
    decide +kernel
  have hthird : ((store.afterChanges changes).find? "3").answer = .ok none := by decide +kernel
  obtain ⟨later, -, -, hfind, -⟩ := afterChanges_keyed hids hfresh
  obtain ⟨found, hfound, hlast⟩ := hfind "1"
  obtain ⟨missing, hmissing, hnone⟩ := hfind "3"
  obtain rfl := Except.ok.inj (hfirst.symm.trans hfound)
  obtain rfl := Except.ok.inj (hthird.symm.trans hmissing)
  refine ⟨hids, hfresh, (hlast third).1 rfl, ?_, hfirst, hthird, by decide +kernel⟩
  rintro ⟨table, htable⟩
  exact nomatch (hnone table).2 htable

end Store

end TableQuery
