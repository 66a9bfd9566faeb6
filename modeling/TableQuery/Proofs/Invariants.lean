import Mathlib.Data.List.Forall2
import Mathlib.Data.List.Induction
import Mathlib.Data.List.Nodup
import TableQuery.Proofs.Reports

/-!
# What a session keeps

* `WellFormed`: tables, columns and rows that can be told apart.
* `Table.Follows`: what a query on one table makes of each table.
* `Store.run_follows`: one query.
* `Query`, `Store.afterCalls`, `Store.TakesFreshIds`: calls in turn, and identifiers that are
  not in use when they are taken.
* `Store.afterCalls_follows`: all the way through a session.
-/

namespace TableQuery

/-- The tables have different identifiers, the columns of each table different names, and the rows
of each table different identifiers. -/
structure WellFormed (tables : List Table) : Prop where
  ids : (tables.map Table.id).Nodup
  columns : ∀ table ∈ tables, table.columns.Nodup
  rows : ∀ table ∈ tables, table.rowIds.Nodup

/-! ### Identifiers that are still to come -/

/-- A supply of identifiers repeats none of them, and none that is still to come is in use. -/
structure IdSupply.IsDistinct (ids : IdSupply) (tables : List Table) : Prop where
  injective : Function.Injective ids.name
  unused : ∀ n, ids.used < n → ∀ table ∈ tables, ids.name n ∉ table.rowIds

theorem IdSupply.IsDistinct.replaceAll {written : List Value} {ids left : IdSupply}
    {tables : List Table} {old new : Table} (h : ids.IsDistinct tables) (hold : old ∈ tables)
    (hchanges : old.Changes written ids left new) : left.IsDistinct (replaceAll new tables) := by
  rcases hchanges.rows with ⟨rfl, hrows⟩ | ⟨rfl, hrows⟩
  · refine ⟨h.injective, fun n hn table htable => ?_⟩
    obtain ⟨source, hsource, rfl⟩ := List.mem_map.1 htable
    split
    · exact fun hmem => h.unused n hn old hold (hrows.subset hmem)
    · exact h.unused n hn source hsource
  · refine ⟨h.injective, fun n hn table htable => ?_⟩
    have hlater : ids.used < n := Nat.lt_of_succ_lt hn
    obtain ⟨source, hsource, rfl⟩ := List.mem_map.1 htable
    split
    · rw [hrows, List.mem_append, List.mem_singleton]
      rintro (hmem | htaken)
      · exact h.unused n hlater old hold hmem
      · exact absurd (h.injective htaken) (Nat.ne_of_gt hn)
    · exact h.unused n hlater source hsource

/-! ### One query -/

/-- What a query on the table with an identifier makes of a table: any other table stays as it is,
and of the rows of this one some remain, in order, with at most one new row after them. -/
structure Table.Follows (id : Text) (old new : Table) : Prop where
  id_eq : new.id = old.id
  other : old.id ≠ id → new = old
  rows : ∃ kept added, kept.Sublist old.rowIds ∧ new.rowIds = kept ++ added ∧ added.length ≤ 1 ∧
    ∀ i ∈ added, i ∉ old.rowIds

theorem Table.Follows.refl (id : Text) (table : Table) : table.Follows id table :=
  ⟨rfl, fun _ => rfl, table.rowIds, [], .refl _, by simp, by simp, by simp⟩

theorem forall₂_follows_refl (id : Text) (tables : List Table) :
    List.Forall₂ (Table.Follows id) tables tables :=
  List.forall₂_same.2 fun table _ => .refl id table

theorem map_id_of_follows {id : Text} {before later : List Table}
    (h : List.Forall₂ (Table.Follows id) before later) :
    later.map Table.id = before.map Table.id := by
  induction h with
  | nil => rfl
  | cons hfirst _ ih => rw [List.map_cons, List.map_cons, hfirst.id_eq, ih]

theorem Table.Changes.follows {written : List Value} {ids left : IdSupply} {old new : Table}
    (h : old.Changes written ids left new) (hfresh : left.used ≠ ids.used → ids.peek ∉ old.rowIds) :
    old.Follows old.id new := by
  refine ⟨h.id_eq, fun hne => absurd rfl hne, ?_⟩
  rcases h.rows with ⟨rfl, hrows⟩ | ⟨rfl, hrows⟩
  · exact ⟨new.rowIds, [], hrows, by simp, by simp, by simp⟩
  · have hpeek := hfresh (Nat.succ_ne_self _)
    exact ⟨old.rowIds, [ids.peek], .refl _, hrows, by simp, by simpa using hpeek⟩

theorem Table.Changes.nodup_rowIds {written : List Value} {ids left : IdSupply} {old new : Table}
    (h : old.Changes written ids left new) (hold : old.rowIds.Nodup)
    (hfresh : left.used ≠ ids.used → ids.peek ∉ old.rowIds) : new.rowIds.Nodup := by
  rcases h.rows with ⟨rfl, hrows⟩ | ⟨rfl, hrows⟩
  · exact hold.sublist hrows
  · rw [hrows]
    refine List.nodup_append.2 ⟨hold, by simp, fun i hi other hother => ?_⟩
    rw [List.mem_singleton.1 hother]
    rintro rfl
    exact hfresh (Nat.succ_ne_self _) hi

/-- Putting a changed table back is a step of its table only, and keeps all apart that was. -/
theorem replaceAll_follows {written : List Value} {ids left : IdSupply} {tables : List Table}
    {old new : Table} (hwell : WellFormed tables) (hold : old ∈ tables)
    (hchanges : old.Changes written ids left new)
    (hfresh : left.used ≠ ids.used → ids.peek ∉ old.rowIds) :
    List.Forall₂ (Table.Follows old.id) tables (replaceAll new tables) ∧
      WellFormed (replaceAll new tables) := by
  -- with different identifiers, only the old table itself is replaced
  have hunique : ∀ table ∈ tables, table.id = old.id → table = old := fun table htable heq =>
    List.inj_on_of_nodup_map hwell.ids htable hold heq
  have hfollows : List.Forall₂ (Table.Follows old.id) tables (replaceAll new tables) := by
    rw [replaceAll, List.forall₂_map_right_iff]
    refine List.forall₂_same.2 fun table htable => ?_
    by_cases heq : table.id = new.id
    · obtain rfl := hunique table htable (heq.trans hchanges.id_eq)
      rw [if_pos heq]
      exact hchanges.follows hfresh
    · rw [if_neg heq]
      exact .refl _ table
  refine ⟨hfollows, (map_id_of_follows hfollows).symm ▸ hwell.ids, ?_, ?_⟩
  · intro table htable
    obtain ⟨source, hsource, rfl⟩ := List.mem_map.1 htable
    split
    · exact hchanges.columns (hwell.columns old hold)
    · exact hwell.columns source hsource
  · intro table htable
    obtain ⟨source, hsource, rfl⟩ := List.mem_map.1 htable
    split
    · exact hchanges.nodup_rowIds (hwell.rows old hold) hfresh
    · exact hwell.rows source hsource

/-- Whatever a query does, it leaves tables in memory that are as well formed as before, if an
identifier that it takes is not in use. -/
theorem Store.run_follows (limit : Int) (mode : Mode) (id text : Text) {tables : List Table}
    {ids : IdSupply} (hwell : WellFormed tables)
    (hfresh : ((⟨.memory tables, ids⟩ : Store).run limit mode id text).store.ids.used ≠ ids.used →
      ∀ table ∈ tables, ids.peek ∉ table.rowIds) :
    ∃ later, ((⟨.memory tables, ids⟩ : Store).run limit mode id text).store.storage =
        .memory later ∧
      List.Forall₂ (Table.Follows id) tables later ∧ WellFormed later := by
  have hsame : List.Forall₂ (Table.Follows id) tables tables ∧ WellFormed tables :=
    ⟨forall₂_follows_refl id tables, hwell⟩
  cases Store.ending_run tables ids limit mode id text with
  | failed _ _ store _ => exact ⟨tables, by rw [store], hsame⟩
  | answered _ _ _ _ _ _ store _ => exact ⟨tables, by rw [store], hsame⟩
  | executed table statement result left _ chosen _ yields _ store _ =>
    rw [store] at hfresh ⊢
    refine ⟨_, rfl, ?_⟩
    rcases yields.changes with ⟨hnone, -⟩ | ⟨later, hlater, hchanges⟩
    · simpa only [Result.tablesAfter, hnone] using hsame
    · have htable := List.mem_of_find?_eq_some chosen
      obtain rfl : table.id = id := by simpa using List.find?_some chosen
      simp only [Result.tablesAfter, hlater]
      exact replaceAll_follows hwell htable hchanges fun htakes => hfresh htakes table htable

/-! ### Sessions -/

/-- A query as it is put to a session. -/
structure Call where
  mode : Mode
  id : Text
  text : Text

namespace Store

/-- The store after a query. -/
def afterCall (limit : Int) (store : Store) (call : Call) : Store :=
  (store.run limit call.mode call.id call.text).store

/-- The store after some calls. -/
def afterCalls (limit : Int) (store : Store) (calls : List Call) : Store :=
  calls.foldl (afterCall limit) store

/-- Whenever one of some calls takes an identifier, no row has that identifier already. -/
def TakesFreshIds (limit : Int) (store : Store) (calls : List Call) : Prop :=
  ∀ front call tables, front ++ [call] <+: calls →
    (store.afterCalls limit front).storage = .memory tables →
    (store.afterCalls limit (front ++ [call])).ids.used ≠
      (store.afterCalls limit front).ids.used →
    ∀ table ∈ tables, (store.afterCalls limit front).ids.peek ∉ table.rowIds

theorem afterCalls_append (limit : Int) (store : Store) (front : List Call) (call : Call) :
    store.afterCalls limit (front ++ [call]) =
      (store.afterCalls limit front).afterCall limit call := by
  simp [afterCalls]

/-- A query keeps identifiers distinct. -/
theorem afterCall_isDistinct {limit : Int} {tables : List Table} {ids : IdSupply} (call : Call)
    (h : ids.IsDistinct tables) :
    ∃ later left, (⟨.memory tables, ids⟩ : Store).afterCall limit call = ⟨.memory later, left⟩ ∧
      left.IsDistinct later := by
  cases Store.ending_run tables ids limit call.mode call.id call.text with
  | failed _ _ store _ => exact ⟨tables, ids, store, h⟩
  | answered _ _ _ _ _ _ store _ => exact ⟨tables, ids, store, h⟩
  | executed table statement result left _ chosen _ yields _ store _ =>
    refine ⟨_, left, store, ?_⟩
    unfold Result.tablesAfter
    rcases yields.changes with ⟨hnone, rfl⟩ | ⟨later, hlater, hchanges⟩
    · rwa [hnone]
    · rw [hlater]
      exact h.replaceAll (List.mem_of_find?_eq_some chosen) hchanges

/-- The identifiers of a sequence that does not repeat itself are fresh whenever they are taken, if
none of those still to come is in use at first. -/
theorem takesFreshIds_of_isDistinct (limit : Int) {tables : List Table} {ids : IdSupply}
    (h : ids.IsDistinct tables) (calls : List Call) :
    (⟨.memory tables, ids⟩ : Store).TakesFreshIds limit calls := by
  have hinvariant (front : List Call) : ∃ later left,
      (⟨.memory tables, ids⟩ : Store).afterCalls limit front = ⟨.memory later, left⟩ ∧
        left.IsDistinct later := by
    induction front using List.reverseRecOn with
    | nil => exact ⟨tables, ids, rfl, h⟩
    | append_singleton front call ih =>
      obtain ⟨before, left, hstate, hdistinct⟩ := ih
      rw [afterCalls_append, hstate]
      exact afterCall_isDistinct call hdistinct
  intro front call before _ hstorage _ table htable
  obtain ⟨later, left, hstate, hdistinct⟩ := hinvariant front
  rw [hstate] at hstorage ⊢
  obtain rfl := Storage.memory.inj hstorage
  exact hdistinct.unused _ (Nat.lt_succ_self _) table htable

/-- One more query of a session that has led to well-formed tables. -/
theorem afterCall_follows {limit : Int} {store : Store} {front calls : List Call}
    {call : Call} {before : List Table} (hfresh : store.TakesFreshIds limit calls)
    (hcalls : front ++ [call] <+: calls)
    (hbefore : (store.afterCalls limit front).storage = .memory before)
    (hwell : WellFormed before) :
    ∃ later, (store.afterCalls limit (front ++ [call])).storage = .memory later ∧
      List.Forall₂ (Table.Follows call.id) before later ∧ WellFormed later := by
  have htakes := hfresh front call before hcalls hbefore
  rw [afterCalls_append] at htakes ⊢
  cases hstate : store.afterCalls limit front with
  | mk storage ids =>
    rw [hstate] at hbefore htakes
    obtain rfl : storage = .memory before := hbefore
    exact run_follows limit call.mode call.id call.text hwell htakes

/-- All along a session on well-formed tables in memory, a query leaves the tables in their order
and the other tables as they are; of the rows of its own table some remain, in order, with at most
one new row after them; and tables, columns and rows can still be told apart. -/
theorem afterCalls_follows {limit : Int} {tables : List Table} {ids : IdSupply}
    {calls front : List Call} {call : Call} (hwell : WellFormed tables)
    (hfresh : (⟨.memory tables, ids⟩ : Store).TakesFreshIds limit calls)
    (hcalls : front ++ [call] <+: calls) :
    let store : Store := ⟨.memory tables, ids⟩
    ∃ before later, (store.afterCalls limit front).storage = .memory before ∧
      (store.afterCalls limit (front ++ [call])).storage = .memory later ∧
      later.map Table.id = before.map Table.id ∧
      List.Forall₂ (Table.Follows call.id) before later ∧ WellFormed later := by
  intro store
  -- the tables before the query are well formed, by induction on the calls before it
  have hbefore : ∃ before, (store.afterCalls limit front).storage = .memory before ∧
      WellFormed before := by
    have hfront : front <+: calls := (List.prefix_append _ _).trans hcalls
    clear hcalls
    induction front using List.reverseRecOn with
    | nil => exact ⟨tables, rfl, hwell⟩
    | append_singleton front last ih =>
      obtain ⟨before, hbefore, hwell⟩ := ih ((List.prefix_append _ _).trans hfront)
      obtain ⟨later, hlater, -, hlaterWell⟩ := afterCall_follows hfresh hfront hbefore hwell
      exact ⟨later, hlater, hlaterWell⟩
  obtain ⟨before, hstorage, hwellBefore⟩ := hbefore
  obtain ⟨later, hlater, hfollows, hwellLater⟩ :=
    afterCall_follows hfresh hcalls hstorage hwellBefore
  exact ⟨before, later, hstorage, hlater, map_id_of_follows hfollows, hfollows, hwellLater⟩

theorem afterCalls_follows_delete :
    let row (id : Text) (value : Int) : Row := ⟨id, .ofList [("a", .int value)]⟩
    let tables : List Table := [⟨"1", .scalar (.text "T"), ["a"], [row "r" 1, row "s" 2]⟩,
      ⟨"2", .scalar (.text "U"), ["a"], [row "r" 1]⟩]
    let store : Store := ⟨.memory tables, .ofSequence fun n => List.replicate n (Point.char 'i')⟩
    let insert : Call := ⟨.sql, "1", "INSERT INTO T VALUES (3)"⟩
    let delete : Call := ⟨.sql, "1", "DELETE FROM T WHERE a = 1"⟩
    let phrase : Call := ⟨.naturalLanguage, "2", "show a"⟩
    let calls : List Call := [insert, delete, phrase]
    WellFormed tables ∧ store.TakesFreshIds 10 calls ∧ [insert] ++ [delete] <+: calls ∧
      ∃ before later, (store.afterCalls 10 [insert]).storage = .memory before ∧
        (store.afterCalls 10 ([insert] ++ [delete])).storage = .memory later ∧
        later.map Table.id = before.map Table.id ∧
        List.Forall₂ (Table.Follows "1") before later ∧ WellFormed later := by
  intro row tables store insert delete phrase calls
  have hwell : WellFormed tables := ⟨by decide, by decide, by decide⟩
  have hdistinct : (IdSupply.ofSequence fun n => List.replicate n (Point.char 'i')).IsDistinct
      tables := by
    refine ⟨fun m n heq => ?_, ?_⟩
    · have hlength : (List.replicate m (Point.char 'i')).length =
          (List.replicate n (Point.char 'i')).length := congrArg List.length heq
      simpa using hlength
    · -- every identifier in use has another letter in it
      have hother : ∀ table ∈ tables, ∀ i ∈ table.rowIds, ∃ p ∈ i, p ≠ Point.char 'i' := by decide
      intro n _ table htable hmem
      obtain ⟨p, hp, hne⟩ := hother table htable _ hmem
      exact hne (List.eq_of_mem_replicate hp)
  have hfresh := takesFreshIds_of_isDistinct 10 hdistinct calls
  have hcalls : [insert] ++ [delete] <+: calls := ⟨[phrase], rfl⟩
  exact ⟨hwell, hfresh, hcalls, afterCalls_follows hwell hfresh hcalls⟩

end Store

end TableQuery
