import TableQuery.Proofs.Invariants
import TableQuery.Proofs.Sessions

/-!
# Queries on different tables

A query looks at no table but its own, and only an `INSERT` looks at the identifiers.

* `replaceAll_comm`, `find?_replaceAll`: tables with different identifiers are apart.
* `Statement.inserts_or_run_eq`: a statement that adds no row runs alike with any identifiers.
* `Call.effect`, `Store.call_memory`: what a query comes to on tables in memory.
* `Call.effect_congr`: this depends only on the table that the query is put to.
* `Call.inserts_or_effect_eq`: unless a row is added, it does not depend on the identifiers.
* `Store.afterCall_comm`: queries on different tables commute.
-/

namespace TableQuery

/-! ### Tables with different identifiers -/

section Replace

variable {tables : List Table} {table other : Table} {id : Text}

theorem replaceAll_comm (h : table.id ≠ other.id) :
    replaceAll table (replaceAll other tables) = replaceAll other (replaceAll table tables) := by
  unfold replaceAll
  rw [List.map_map, List.map_map]
  refine List.map_congr_left fun source _ => ?_
  by_cases htable : source.id = table.id
  · simp [htable, h]
  · by_cases hother : source.id = other.id <;> simp [htable, hother, h.symm]

/-- A table with another identifier is found as before. -/
theorem find?_replaceAll (h : table.id ≠ id) :
    ((replaceAll table tables).find? fun t => t.id == id) = tables.find? fun t => t.id == id := by
  induction tables with
  | nil => rfl
  | cons first rest ih =>
    rw [replaceAll, List.map_cons, List.find?_cons, List.find?_cons]
    by_cases hfirst : first.id = table.id
    · have hnot : (table.id == id) = false := beq_false_of_ne h
      rw [if_pos hfirst, hfirst, hnot]
      exact ih
    · rw [if_neg hfirst]
      split
      · rfl
      · exact ih

end Replace

/-! ### Effects on tables in memory -/

namespace Effect

variable {effect other : Effect} {id : Text}

/-- Changes of tables with different identifiers commute. -/
theorem tables_comm (tables : List Table)
    (h : ∀ s ∈ effect.changed, ∀ t ∈ other.changed, s.id ≠ t.id) :
    effect.tables (other.tables tables) = other.tables (effect.tables tables) := by
  unfold Effect.tables
  cases hs : effect.changed with
  | none => rfl
  | some s =>
    cases ht : other.changed with
    | none => rfl
    | some t => exact replaceAll_comm (h s hs t ht)

theorem find?_tables {tables : List Table} (h : ∀ t ∈ effect.changed, t.id ≠ id) :
    ((effect.tables tables).find? fun t => t.id == id) = tables.find? fun t => t.id == id := by
  unfold Effect.tables
  cases ht : effect.changed with
  | none => rfl
  | some t => exact find?_replaceAll (h t ht)

end Effect

/-- The reply to a phrase on the table with an identifier. -/
def phraseReply (limit : Int) (id text : Text) (tables : List Table) : Reply :=
  if isBlankText text then failureReply (.query (.emptyQuery .naturalLanguage))
  else
    match tables.find? fun table => table.id == id with
    | none => failureReply (.query (.unknownTable id))
    | some table =>
      match (Plan.ofPhrase limit text table).answer table with
      | .error fault => failureReply (.fault fault)
      | .ok answer => .outcome (.ofAnswer answer)

/-- What a query comes to on tables in memory; a phrase changes nothing. -/
def Call.effect (limit : Int) (call : Call) (tables : List Table) (ids : IdSupply) : Effect :=
  match call.mode with
  | .sql => TableQuery.effect call.id call.text tables ids
  | .naturalLanguage => ⟨phraseReply limit call.id call.text tables, none, ids⟩

namespace Store

variable (tables : List Table) (ids : IdSupply)

theorem runPhrase_memory (limit : Int) (id text : Text) :
    ((⟨.memory tables, ids⟩ : Store).runPhrase limit id text).reply =
        phraseReply limit id text tables ∧
      ((⟨.memory tables, ids⟩ : Store).runPhrase limit id text).store = ⟨.memory tables, ids⟩ := by
  unfold runPhrase phraseReply
  by_cases hblank : isBlankText text = true
  · rw [if_pos hblank, if_pos hblank]
    exact ⟨rfl, rfl⟩
  rw [if_neg hblank, if_neg hblank, choose_memory]
  cases tables.find? fun table => table.id == id with
  | none => exact ⟨rfl, rfl⟩
  | some table =>
    simp only
    cases (Plan.ofPhrase limit text table).answer table with
    | error fault => exact ⟨rfl, rfl⟩
    | ok answer => exact ⟨rfl, rfl⟩

/-- The reply to a query. -/
def replyTo (limit : Int) (store : Store) (call : Call) : Reply :=
  (store.run limit call.mode call.id call.text).reply

/-- On tables in memory a query has its effect. -/
theorem call_memory (limit : Int) (call : Call) :
    replyTo limit ⟨.memory tables, ids⟩ call = (call.effect limit tables ids).reply ∧
      afterCall limit ⟨.memory tables, ids⟩ call =
        ⟨.memory ((call.effect limit tables ids).tables tables),
          (call.effect limit tables ids).left⟩ := by
  obtain ⟨mode, id, text⟩ := call
  cases mode with
  | sql => exact runStatement_holding (.memory []) id text rfl
  | naturalLanguage => exact runPhrase_memory tables ids limit id text

end Store

/-! ### What an effect depends on -/

/-- An `INSERT` takes an identifier, or it fails whichever identifiers are left. -/
theorem Insertion.takes_or_fails (insertion : Insertion) (table : Table) (ids : IdSupply) :
    (∃ result, insertion.run table ids = .ok (result, ids.take)) ∨
      ∃ failure, ∀ left, insertion.run table left = .error failure := by
  unfold Insertion.run
  cases (insertion.writtenColumns table).mapError Failure.query with
  | error failure => exact Or.inr ⟨failure, fun left => rfl⟩
  | ok columns =>
    simp only [ok_bind]
    split
    · exact Or.inr ⟨_, fun left => rfl⟩
    · exact Or.inl ⟨_, rfl⟩

/-- A statement adds a row, or it takes no identifier and does the same whichever are left. -/
theorem Statement.inserts_or_run_eq (statement : Statement) (table : Table) (ids : IdSupply) :
    (∃ insertion answer, statement = .insert insertion ∧ statement.run table ids = .ok answer) ∨
      ∀ left, statement.run table left =
        (statement.run table ids).map fun answer => (answer.1, left) := by
  unfold Statement.run
  cases table.isNamed statement.table with
  | false => exact Or.inr fun left => rfl
  | true =>
    have hreads (yielded : Except Failure Result) (left : IdSupply) :
        yielded.map (·, left) = (yielded.map (·, ids)).map fun answer => (answer.1, left) := by
      cases yielded <;> rfl
    cases statement with
    | insert insertion =>
      rcases insertion.takes_or_fails table ids with ⟨result, hrun⟩ | ⟨failure, hrun⟩
      · exact Or.inl ⟨insertion, _, rfl, hrun⟩
      · refine Or.inr fun left => ?_
        simp only [hrun]
        rfl
    | select selection => exact Or.inr (hreads (selection.run table))
    | update update => exact Or.inr (hreads (update.run table))
    | delete deletion => exact Or.inr (hreads (deletion.run table))
    | alter name alteration => exact Or.inr (hreads (alteration.run table))

namespace Call

variable {limit : Int} {call : Call} {tables others : List Table} {ids : IdSupply}

/-- A query depends on no table but the one that it is put to. -/
theorem effect_congr
    (h : (tables.find? fun t => t.id == call.id) = others.find? fun t => t.id == call.id) :
    call.effect limit tables ids = call.effect limit others ids := by
  unfold effect phraseReply TableQuery.effect
  rw [h]

/-- The table that a query changes is the one that it is put to. -/
theorem changed_id {table : Table} (h : table ∈ (call.effect limit tables ids).changed) :
    table.id = call.id := by
  obtain ⟨mode, id, text⟩ := call
  cases mode with
  | naturalLanguage => exact absurd h (by simp [effect])
  | sql => exact effect_changed_id h

/-- An `INSERT` that succeeds. -/
def Inserts (limit : Int) (call : Call) (store : Store) : Prop :=
  call.mode = .sql ∧ (∃ insertion, Statement.parse call.text = .ok (.insert insertion)) ∧
    (store.replyTo limit call).success = true

/-- A query adds a row, or it takes no identifier and comes to the same whichever are left. -/
theorem inserts_or_effect_eq (limit : Int) (call : Call) (tables : List Table) (ids : IdSupply) :
    call.Inserts limit ⟨.memory tables, ids⟩ ∨
      ∀ left,
        call.effect limit tables left = { call.effect limit tables ids with left := left } := by
  have hreply := (Store.call_memory tables ids limit call).1
  obtain ⟨mode, id, text⟩ := call
  cases mode with
  | naturalLanguage => exact Or.inr fun left => rfl
  | sql =>
    unfold Inserts
    rw [hreply]
    simp only [effect, TableQuery.effect]
    split
    · exact Or.inr fun left => rfl
    split
    · exact Or.inr fun left => rfl
    rename_i found hfound
    unfold evaluate
    cases hparse : Statement.parse text with
    | error error => exact Or.inr fun left => rfl
    | ok statement =>
      simp only
      rcases statement.inserts_or_run_eq found ids with ⟨insertion, answer, rfl, hrun⟩ | hrun
      · refine Or.inl ⟨trivial, ⟨insertion, rfl⟩, ?_⟩
        rw [hrun]
        rfl
      · refine Or.inr fun left => ?_
        rw [hrun left]
        cases statement.run found ids <;> rfl

end Call

namespace Store

variable (limit : Int) (tables : List Table) (ids : IdSupply) {a b : Call}

/-- A query after one on another table has the effect that it has on the tables before, with the
identifiers that are left. -/
theorem call_after (hids : a.id ≠ b.id) :
    let first := a.effect limit tables ids
    let second := b.effect limit tables first.left
    replyTo limit (afterCall limit ⟨.memory tables, ids⟩ a) b = second.reply ∧
      afterCall limit (afterCall limit ⟨.memory tables, ids⟩ a) b =
        ⟨.memory (second.tables (first.tables tables)), second.left⟩ := by
  intro first second
  have hfound : ((first.tables tables).find? fun t => t.id == b.id) =
      tables.find? fun t => t.id == b.id :=
    Effect.find?_tables fun t ht => Call.changed_id ht ▸ hids
  have hsecond : b.effect limit (first.tables tables) first.left = second :=
    Call.effect_congr hfound
  rw [(call_memory tables ids limit a).2, ← hsecond]
  exact call_memory (first.tables tables) first.left limit b

/-- A query that adds no row can come before or after a query on another table. -/
theorem afterCall_comm_of_effect_eq (hids : a.id ≠ b.id)
    (hb : ∀ left, b.effect limit tables left = { b.effect limit tables ids with left := left }) :
    let store : Store := ⟨.memory tables, ids⟩
    (store.afterCall limit a).afterCall limit b = (store.afterCall limit b).afterCall limit a ∧
      (store.afterCall limit b).replyTo limit a = store.replyTo limit a ∧
      (store.afterCall limit a).replyTo limit b = store.replyTo limit b := by
  intro store
  have hleft : (b.effect limit tables ids).left = ids := congrArg Effect.left (hb ids)
  obtain ⟨hreplyB, hstoreAB⟩ := call_after limit tables ids hids
  obtain ⟨hreplyA, hstoreBA⟩ := call_after limit tables ids hids.symm
  rw [hb] at hreplyB hstoreAB
  rw [hleft] at hreplyA hstoreBA
  have hapart : ∀ s ∈ (b.effect limit tables ids).changed,
      ∀ t ∈ (a.effect limit tables ids).changed, s.id ≠ t.id := by
    intro s hs t ht
    rw [Call.changed_id hs, Call.changed_id ht]
    exact hids.symm
  have htables := Effect.tables_comm tables hapart
  refine ⟨?_, ?_, ?_⟩
  · rw [hstoreAB, hstoreBA, ← htables]
    rfl
  · exact hreplyA.trans (call_memory tables ids limit a).1.symm
  · exact hreplyB.trans (call_memory tables ids limit b).1.symm

/-- Queries on different tables in memory commute, unless both add a row: in either order they leave
the same store, and each of them gets the same reply. -/
theorem afterCall_comm (hids : a.id ≠ b.id)
    (hinserts : ¬(a.Inserts limit ⟨.memory tables, ids⟩ ∧ b.Inserts limit ⟨.memory tables, ids⟩)) :
    let store : Store := ⟨.memory tables, ids⟩
    (store.afterCall limit a).afterCall limit b = (store.afterCall limit b).afterCall limit a ∧
      (store.afterCall limit b).replyTo limit a = store.replyTo limit a ∧
      (store.afterCall limit a).replyTo limit b = store.replyTo limit b := by
  intro store
  rcases b.inserts_or_effect_eq limit tables ids with hb | hb
  · rcases a.inserts_or_effect_eq limit tables ids with ha | ha
    · exact absurd ⟨ha, hb⟩ hinserts
    · obtain ⟨hstore, hreplyB, hreplyA⟩ := afterCall_comm_of_effect_eq limit tables ids hids.symm ha
      exact ⟨hstore.symm, hreplyA, hreplyB⟩
  · exact afterCall_comm_of_effect_eq limit tables ids hids hb

theorem afterCall_comm_insert_rename :
    let table (id name : Text) : Table := ⟨id, .scalar (.text name), ["a"], []⟩
    let store : Store := ⟨.memory [table "1" "T", table "2" "U", table "1" "U"],
      .ofSequence uuidText⟩
    let insert : Call := ⟨.sql, "1", "INSERT INTO T VALUES (1)"⟩
    let rename : Call := ⟨.sql, "2", "ALTER TABLE U RENAME TO T"⟩
    insert.id ≠ rename.id ∧ ¬(insert.Inserts 10 store ∧ rename.Inserts 10 store) ∧
      (store.afterCall 10 insert).afterCall 10 rename =
        (store.afterCall 10 rename).afterCall 10 insert ∧
      (store.afterCall 10 rename).replyTo 10 insert = store.replyTo 10 insert ∧
      (store.afterCall 10 insert).replyTo 10 rename = store.replyTo 10 rename := by
  intro table store insert rename
  have hids : insert.id ≠ rename.id := by decide
  have hparse : Statement.parse rename.text = .ok (.alter "U" (.rename "T")) := by decide +kernel
  have hinserts : ¬(insert.Inserts 10 store ∧ rename.Inserts 10 store) := by
    rintro ⟨-, -, ⟨insertion, hinsertion⟩, -⟩
    exact absurd (hparse.symm.trans hinsertion) (by simp)
  exact ⟨hids, hinserts, afterCall_comm 10 _ _ hids hinserts⟩

end Store

end TableQuery
