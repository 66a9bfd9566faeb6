import TableQuery.Proofs.Sessions

/-!
# Tables that share an identifier

Nothing keeps two tables of a store from having one identifier. A statement is then run on the
first of them, but what it makes of that table is put in place of all of them, whereas
`Store.replace` puts a table in place of the first one alone.

* `replaceFirst_append`, `replaceAll_append`: the two ways to put a table in place of the first one
  with its identifier.
* `replaceAll_eq_self_iff`: when nothing is overwritten.
* `Store.replace_of_load`: what `Store.replace` saves.
* `Store.Updates`: a statement makes a table of the first one with the identifier.
* `Store.runStatement_saves_as_replace_iff`: a statement saves what `Store.replace` would save just
  if the later tables with the identifier are the very table that it makes.
-/

namespace TableQuery

open Text

/-! ### Putting a table among others -/

section Replace

variable {front back tables : List Table} {table updated : Table}

theorem replaceFirst_append (hfront : ∀ other ∈ front, other.id ≠ updated.id)
    (hid : table.id = updated.id) :
    Store.replaceFirst updated (front ++ table :: back) = front ++ updated :: back := by
  induction front with
  | nil => exact if_pos hid
  | cons first rest ih =>
    obtain ⟨hfirst, hrest⟩ := List.forall_mem_cons.1 hfront
    rw [List.cons_append, Store.replaceFirst, if_neg hfirst, ih hrest, List.cons_append]

/-- A table is put in place of those with its identifier, and nothing else changes, just if each of
them is that table already. -/
theorem replaceAll_eq_self_iff : replaceAll updated tables = tables ↔
    ∀ other ∈ tables, other.id = updated.id → other = updated := by
  induction tables with
  | nil => simp [replaceAll]
  | cons first rest ih =>
    rw [List.forall_mem_cons, ← ih, replaceAll, List.map_cons, List.cons.injEq]
    refine and_congr_left' ?_
    split <;> simp_all [eq_comm]

theorem replaceAll_append (hfront : ∀ other ∈ front, other.id ≠ updated.id)
    (hid : table.id = updated.id) :
    replaceAll updated (front ++ table :: back) = front ++ updated :: replaceAll updated back := by
  have hsame : replaceAll updated front = front :=
    replaceAll_eq_self_iff.2 fun other hother h => absurd h (hfront other hother)
  unfold replaceAll at hsame ⊢
  rw [List.map_append, List.map_cons, hsame, if_pos hid]

end Replace

namespace Store

variable {store : Store} {id text : Text} {tables : List Table} {table updated : Table}
  {outcome : Outcome}

/-- A table is put in place of the first of the tables that are loaded with its identifier. -/
theorem replace_of_load (hload : store.load.answer = .ok tables) (hmem : table ∈ tables)
    (hid : table.id = updated.id) :
    (store.replace updated).answer = .ok () ∧ (store.replace updated).store.storage =
      store.storage.holding (replaceFirst updated tables) := by
  have hany : (tables.any fun other => other.id == updated.id) = true :=
    List.any_eq_true.2 ⟨table, hmem, beq_iff_eq.2 hid⟩
  obtain ⟨-, hsave, hstore⟩ :=
    save_of_load hload (replaceFirst updated tables) store.load.store.ids
  simp only [replace, Step.andThen, hload, hany, if_true]
  exact ⟨hsave, congrArg Store.storage hstore⟩

/-! ### What a statement saves -/

/-- A statement makes a table of the first one with an identifier, among those that are loaded. -/
structure Updates (store : Store) (id text : Text) (front : List Table) (table : Table)
    (back : List Table) (updated : Table) : Prop where
  loaded : store.load.answer = .ok (front ++ table :: back)
  first : ∀ other ∈ front, other.id ≠ id
  id_eq : table.id = id
  makes : ∃ statement result left, Statement.parse text = .ok statement ∧
    statement.run table store.load.store.ids = .ok (result, left) ∧ result.table? = some updated
  updated_id : updated.id = id

theorem failureReply_table {failure : Failure} (h : failureReply failure = .outcome outcome) :
    outcome.table = none := by
  unfold failureReply at h
  split at h
  · exact nomatch h
  · obtain rfl := Reply.outcome.inj h
    rfl

theorem runStatement_of_load_error {fault : Fault} (hload : store.load.answer = .error fault) :
    ∃ failure, (store.runStatement id text).reply = failureReply failure := by
  unfold runStatement
  split
  · exact ⟨.query (.emptyQuery .sql), rfl⟩
  · rw [choose, hload]
    exact ⟨.fault fault, rfl⟩

/-- A statement whose outcome has a table saves it in place of every table with its identifier. -/
theorem exists_updates (hreply : (store.runStatement id text).reply = .outcome outcome)
    (htable : outcome.table = some updated) :
    ∃ front table back, store.Updates id text front table back updated ∧
      (store.runStatement id text).store.storage =
        store.storage.holding (replaceAll updated (front ++ table :: back)) := by
  -- a failure has no table in its outcome, so the tables were loaded and the statement was run
  have hnot (failure : Failure) : (store.runStatement id text).reply ≠ failureReply failure := by
    intro h
    rw [failureReply_table (h.symm.trans hreply)] at htable
    exact nomatch htable
  cases hload : store.load.answer with
  | error fault =>
    obtain ⟨failure, hfailure⟩ := runStatement_of_load_error hload
    exact absurd hfailure (hnot failure)
  | ok tables =>
    obtain ⟨hsame, hstore⟩ := runStatement_of_load id text hload
    have hsucceeds : ¬∃ failure, effect id text tables store.load.store.ids =
        .ofFailure failure store.load.store.ids := by
      rintro ⟨failure, hfailure⟩
      exact hnot failure (hsame.trans (congrArg Effect.reply hfailure))
    obtain ⟨table, statement, result, left, hfind, hparse, hnamed, hyields, heffect⟩ :=
      (effect_cases id text tables store.load.store.ids).resolve_left hsucceeds
    have hcarried := hstore.resolve_right fun h => hsucceeds h.1
    have hid := @effect_changed_id id text tables store.load.store.ids updated
    rw [heffect] at hsame hcarried hid
    obtain rfl := Reply.outcome.inj (hreply.symm.trans hsame)
    have hmakes : result.table? = some updated := htable
    obtain ⟨hfound, front, back, rfl, hfront⟩ := List.find?_eq_some_iff_append.1 hfind
    refine ⟨front, table, back, ⟨hload, ?_, beq_iff_eq.1 hfound, ?_, hid hmakes⟩, ?_⟩
    · exact fun other hother => by simpa using hfront other hother
    · exact ⟨statement, result, left, hparse, Statement.run_eq_ok.2 ⟨hnamed, hyields⟩, hmakes⟩
    · rw [hcarried, carryOut, hmakes]
      exact (save_of_load hload _ left).1

/-- A statement whose outcome has a table made it of the first table with the identifier. It saves
it in place of that one and also of every later table with the identifier, where `Store.replace`
would leave the later ones alone. The two save the same just if each of the later ones is the table
that the statement made. -/
theorem runStatement_saves_as_replace_iff
    (hreply : (store.runStatement id text).reply = .outcome outcome)
    (htable : outcome.table = some updated) :
    ∃ front table back, store.Updates id text front table back updated ∧
      (store.runStatement id text).store.storage =
        store.storage.holding (front ++ updated :: replaceAll updated back) ∧
      (store.replace updated).answer = .ok () ∧
      (store.replace updated).store.storage = store.storage.holding (front ++ updated :: back) ∧
      (front ++ updated :: replaceAll updated back = front ++ updated :: back ↔
        ∀ other ∈ back, other.id = id → other = updated) := by
  obtain ⟨front, table, back, hupdates, hsaved⟩ := exists_updates hreply htable
  obtain rfl := hupdates.updated_id
  obtain ⟨hanswer, hreplaced⟩ := replace_of_load hupdates.loaded
    (List.mem_append_right front List.mem_cons_self) hupdates.id_eq
  rw [replaceFirst_append hupdates.first hupdates.id_eq] at hreplaced
  rw [replaceAll_append hupdates.first hupdates.id_eq] at hsaved
  refine ⟨front, table, back, hupdates, hsaved, hanswer, hreplaced, ?_⟩
  rw [List.append_cancel_left_eq, List.cons.injEq, ← replaceAll_eq_self_iff]
  exact and_iff_right rfl

theorem runStatement_saves_as_replace_of_shared_id :
    let first : Table := ⟨"1", .scalar (.text "T"), ["a"], [⟨"r1", .ofList [("a", .int 1)]⟩]⟩
    let second : Table := ⟨"1", .scalar (.text "U"), ["b"], [⟨"r2", .ofList [("b", .int 2)]⟩]⟩
    let updated : Table := ⟨"1", .scalar (.text "T"), ["a"], [⟨"r1", .ofList [("a", .int 3)]⟩]⟩
    let store : Store := ⟨.memory [first, second], .ofSequence uuidText⟩
    (store.runStatement "1" "UPDATE T SET a = 3").reply =
        .outcome (.ofResult (.updated updated 1)) ∧
      (store.runStatement "1" "UPDATE T SET a = 3").store.storage = .memory [updated, updated] ∧
      (store.replace updated).store.storage = .memory [updated, second] := by
  intro first second updated store
  have hreply : (store.runStatement "1" "UPDATE T SET a = 3").reply =
      .outcome (.ofResult (.updated updated 1)) := by decide +kernel
  obtain ⟨front, table, back, hupdates, hsaved, -, hreplaced, -⟩ :=
    runStatement_saves_as_replace_iff hreply rfl
  have htables : [first, second] = front ++ table :: back := Except.ok.inj hupdates.loaded
  cases front with
  | nil =>
    obtain ⟨-, rfl⟩ := List.cons.inj htables
    have hsecond : replaceAll updated [second] = [updated] :=
      replaceAll_append (List.forall_mem_nil _) rfl
    rw [hsecond] at hsaved
    exact ⟨hreply, hsaved, hreplaced⟩
  | cons other rest =>
    obtain ⟨rfl, -⟩ := List.cons.inj htables
    exact absurd rfl (hupdates.first first List.mem_cons_self)

end Store

end TableQuery
