import TableQuery.Proofs.StorableStatements
import TableQuery.Run

/-!
# Sessions in memory and in a file

* `effect`, `effect_cases`: what running a statement comes to, whatever keeps the tables.
* `Storage.holding`, `Store.save_of_load`: a store that is loaded can be saved, and stays of its
  kind.
* `Store.carryOut`, `Store.runStatement_of_load`: a statement has its effect on the tables that are
  loaded.
* `Store.runStatement_holding`: memory and a data file carry it out alike, as long as the data file
  gives its tables back.
* `Store.watch`: what a caller sees who looks at the tables before and after each statement.
* `Store.after`: the store after some statements.
* `Store.watch_memory_eq_watch_file_iff`: the two look the same just as long as every list of
  tables on the way is one that a data file gives back.
-/

namespace TableQuery

open Text

/-! ### Effects -/

/-- What running a statement comes to: the reply, the table that is changed, and the identifiers
that are left. -/
structure Effect where
  reply : Reply
  changed : Option Table
  left : IdSupply

/-- The effect of a query that fails. -/
def Effect.ofFailure (failure : Failure) (ids : IdSupply) : Effect :=
  ⟨failureReply failure, none, ids⟩

/-- A failure does not come back as a result. -/
theorem failureReply_ne_ofResult (failure : Failure) (result : Result) :
    failureReply failure ≠ .outcome (.ofResult result) := by
  unfold failureReply
  split <;> simp [Outcome.ofError, Outcome.ofResult]

/-- The effect of a statement on the tables that are kept. -/
def effect (id text : Text) (tables : List Table) (ids : IdSupply) : Effect :=
  if isBlankText text then .ofFailure (.query (.emptyQuery .sql)) ids
  else
    match tables.find? fun table => table.id == id with
    | none => .ofFailure (.query (.unknownTable id)) ids
    | some table =>
      match (evaluate text table ids).1 with
      | .error failure => .ofFailure failure ids
      | .ok (result, left) => ⟨.outcome (.ofResult result), result.table?, left⟩

/-- The tables afterwards. -/
def Effect.tables (effect : Effect) (before : List Table) : List Table :=
  match effect.changed with
  | none => before
  | some table => replaceAll table before

theorem Effect.mem_tables {effect : Effect} {before : List Table} {table : Table}
    (h : table ∈ effect.tables before) : effect.changed = some table ∨ table ∈ before := by
  unfold tables at h
  split at h
  · exact .inr h
  · rename_i updated hchanged
    obtain ⟨source, hsource, rfl⟩ := List.mem_map.1 h
    split
    · exact .inl hchanged
    · exact .inr hsource

/-- A statement fails, or it is run on the table with the identifier. -/
theorem effect_cases (id text : Text) (tables : List Table) (ids : IdSupply) :
    (∃ failure, effect id text tables ids = .ofFailure failure ids) ∨
      ∃ table statement result left,
        (tables.find? fun table => table.id == id) = some table ∧
        Statement.parse text = .ok statement ∧ table.isNamed statement.table = true ∧
        statement.Yields table ids result left ∧
        effect id text tables ids = ⟨.outcome (.ofResult result), result.table?, left⟩ := by
  unfold effect
  split
  · exact Or.inl ⟨_, rfl⟩
  split
  · exact Or.inl ⟨_, rfl⟩
  rename_i table hfind
  split
  · exact Or.inl ⟨_, rfl⟩
  rename_i result left hevaluate
  unfold evaluate at hevaluate
  cases hparse : Statement.parse text with
  | error error => simp [hparse] at hevaluate
  | ok statement =>
    simp only [hparse] at hevaluate
    obtain ⟨hnamed, hyields⟩ := Statement.run_eq_ok.1 hevaluate
    exact Or.inr ⟨table, statement, result, left, hfind, rfl, hnamed, hyields, rfl⟩

/-- The table that a statement changes has the identifier that it is put to. -/
theorem effect_changed_id {id text : Text} {tables : List Table} {ids : IdSupply} {table : Table}
    (h : table ∈ (effect id text tables ids).changed) : table.id = id := by
  rcases effect_cases id text tables ids with ⟨failure, heffect⟩ |
    ⟨found, statement, result, left, hfound, -, -, hyields, heffect⟩
  · rw [heffect] at h
    simp [Effect.ofFailure] at h
  · rw [heffect] at h
    have hchosen : found.id = id := by simpa using List.find?_some hfound
    rcases hyields.changes with ⟨hnone, -⟩ | ⟨later, hlater, hchanges⟩
    · simp [hnone] at h
    · obtain rfl : later = table := Option.some.inj (hlater.symm.trans h)
      exact hchanges.id_eq.trans hchosen

/-- A statement leaves tables that a data file can hold. -/
theorem effect_isStorable (id text : Text) {tables : List Table} {ids : IdSupply}
    (hstorable : ∀ table ∈ tables, table.IsStorable) (hids : ∀ n, ids.name n ≠ []) :
    (∀ table ∈ (effect id text tables ids).tables tables, table.IsStorable) ∧
      (effect id text tables ids).left.name = ids.name := by
  rcases effect_cases id text tables ids with ⟨failure, heffect⟩ |
    ⟨table, statement, result, left, hfind, hparse, -, hyields, heffect⟩
  · -- a failure changes no table and takes no identifier
    rw [heffect]
    exact ⟨hstorable, rfl⟩
  have htable := hstorable table (List.mem_of_find?_eq_some hfind)
  obtain ⟨hresult, hleft⟩ :=
    hyields.isStorable (Statement.writesStorable_of_parse hparse) htable hids
  rw [heffect]
  refine ⟨fun other hother => ?_, hleft⟩
  rcases Effect.mem_tables hother with hchanged | hold
  · exact hresult other hchanged
  · exact hstorable other hold

/-! ### Carrying them out -/

/-- The same kind of storage with some tables saved in it. -/
def Storage.holding (tables : List Table) : Storage → Storage
  | .memory _ => .memory tables
  | .file path seeded _ => .file path seeded (.content (tablesToText tables))

@[simp] theorem Storage.holding_holding (tables later : List Table) (storage : Storage) :
    (storage.holding tables).holding later = storage.holding later := by
  cases storage <;> rfl

namespace Store

variable {storage : Storage} {tables : List Table} {ids : IdSupply}

/-- A store after an effect on its tables. -/
def carryOut (effect : Effect) (tables : List Table) (store : Store) : Store :=
  match effect.changed with
  | none => { store with ids := effect.left }
  | some table => ⟨store.storage.holding (replaceAll table tables), effect.left⟩

theorem carryOut_ofFailure (failure : Failure) (tables : List Table) (store : Store) :
    store.carryOut (.ofFailure failure store.ids) tables = store := rfl

/-- Tables can be saved in a store that has been loaded, and it stays a store of the same kind. -/
theorem save_of_load {store : Store} {loaded : List Table} (hload : store.load.answer = .ok loaded)
    (tables : List Table) (ids : IdSupply) :
    store.load.store.storage.holding tables = store.storage.holding tables ∧
      (save tables { store.load.store with ids := ids }).answer = .ok () ∧
      (save tables { store.load.store with ids := ids }).store =
        ⟨store.storage.holding tables, ids⟩ := by
  obtain ⟨storage, before⟩ := store
  cases storage with
  | memory _ => exact ⟨rfl, rfl, rfl⟩
  | file path seeded state =>
    cases state with
    | missing => cases seeded <;> exact ⟨rfl, rfl, rfl⟩
    | content text =>
      unfold load
      simp only
      split
      · exact ⟨rfl, rfl, rfl⟩
      · split <;> exact ⟨rfl, rfl, rfl⟩
    | unreadable fault => exact nomatch hload
    | unreachable fault => exact nomatch hload

theorem load_file (path text : Text) (seeded : Bool) (ids : IdSupply) :
    (⟨.file path seeded (.content text), ids⟩ : Store).load.answer =
      (contentsOfText text ids).1.map Contents.tables := by
  unfold load
  simp only
  cases h : contentsOfText text ids with
  | mk answer left =>
    cases answer with
    | error fault => rfl
    | ok contents =>
      simp only
      split <;> rfl

/-- A data file gives back what was saved in it just if all the tables are faithful. -/
theorem load_file_eq_iff (path : Text) (seeded : Bool) (ids : IdSupply)
    (hstorable : ∀ table ∈ tables, table.IsStorable) :
    (⟨.file path seeded (.content (tablesToText tables)), ids⟩ : Store).load.answer = .ok tables ↔
      ∀ table ∈ tables, table.IsFaithful := by
  rw [load_file]
  exact contentsOfText_eq_iff hstorable ids

/-- Faithful tables are loaded as they were saved, and nothing happens to the store. -/
theorem load_holding (hstorable : ∀ table ∈ tables, table.IsStorable)
    (hfaithful : ∀ table ∈ tables, table.IsFaithful) :
    (⟨storage.holding tables, ids⟩ : Store).load =
      ⟨.ok tables, ⟨storage.holding tables, ids⟩, []⟩ := by
  cases storage with
  | memory _ => rfl
  | file path seeded state =>
    unfold load Storage.holding
    simp only
    rw [contentsOfText_of_isFaithful hstorable hfaithful]
    rfl

/-- A result is put back without a failure. -/
theorem putResult_of_load {store : Store} {loaded : List Table}
    (hload : store.load.answer = .ok loaded) (tables : List Table) (result : Result)
    (ids : IdSupply) :
    (putResult tables result { store.load.store with ids := ids }).answer = .ok () ∧
      ∀ reply, (putResult tables result { store.load.store with ids := ids }).store =
        store.load.store.carryOut ⟨reply, result.table?, ids⟩ tables := by
  unfold putResult carryOut
  cases result.table? with
  | none => exact ⟨rfl, fun _ => rfl⟩
  | some updated =>
    obtain ⟨hkind, hsave, hstore⟩ := save_of_load hload (replaceAll updated tables) ids
    refine ⟨?_, fun _ => ?_⟩
    · simp only [putBack, Step.andThen, hsave]
    · simp only [putBack, Step.andThen, hsave, hstore, hkind]

/-- A statement has its effect on the tables that are loaded. Blank text fails, and the tables are
not even loaded. -/
theorem runStatement_of_load {store : Store} (id text : Text)
    (hload : store.load.answer = .ok tables) :
    let effect := effect id text tables store.load.store.ids
    (store.runStatement id text).reply = effect.reply ∧
      ((store.runStatement id text).store = store.load.store.carryOut effect tables ∨
        (∃ failure, effect = .ofFailure failure store.load.store.ids) ∧
          (store.runStatement id text).store = store) := by
  unfold runStatement effect
  by_cases hblank : isBlankText text = true
  · rw [if_pos hblank, if_pos hblank]
    exact ⟨rfl, Or.inr ⟨⟨_, rfl⟩, rfl⟩⟩
  rw [if_neg hblank, if_neg hblank, choose, hload]
  simp only
  cases tables.find? fun table => table.id == id with
  | none => exact ⟨rfl, Or.inl rfl⟩
  | some table =>
    simp only
    cases hevaluate : evaluate text table store.load.store.ids with
    | mk evaluated remarks =>
      cases evaluated with
      | error failure => exact ⟨rfl, Or.inl rfl⟩
      | ok answer =>
        obtain ⟨result, left⟩ := answer
        obtain ⟨hput, hstore⟩ := putResult_of_load hload tables result left
        simp only [hput]
        exact ⟨trivial, Or.inl (hstore _)⟩

/-- Where the tables are loaded as they are, a statement has its effect. -/
theorem runStatement_holding (storage : Storage) (id text : Text)
    (hload : (⟨storage.holding tables, ids⟩ : Store).load =
      ⟨.ok tables, ⟨storage.holding tables, ids⟩, []⟩) :
    ((⟨storage.holding tables, ids⟩ : Store).runStatement id text).reply =
        (effect id text tables ids).reply ∧
      ((⟨storage.holding tables, ids⟩ : Store).runStatement id text).store =
        ⟨storage.holding ((effect id text tables ids).tables tables),
          (effect id text tables ids).left⟩ := by
  obtain ⟨hreply, hstore⟩ := runStatement_of_load id text (congrArg Step.answer hload)
  rw [hload] at hreply hstore
  refine ⟨hreply, ?_⟩
  rcases hstore with hstore | ⟨⟨failure, heffect⟩, hstore⟩
  · rw [hstore]
    unfold carryOut Effect.tables
    cases (effect id text tables ids).changed with
    | none => rfl
    | some updated => simp only [Storage.holding_holding]
  · rw [hstore, heffect]
    rfl

/-! ### Sessions -/

/-- What a caller sees who looks at the tables, runs a statement on the table with an identifier,
looks at them again, and so on: each time the tables and the reply to what is run next. -/
def watch (store : Store) : List (Text × Text) → List (Except Fault (List Table) × Option Reply)
  | [] => [(store.load.answer, none)]
  | (id, text) :: calls =>
    let run := store.load.store.runStatement id text
    (store.load.answer, some run.reply) :: watch run.store calls

/-- The store after some statements. -/
def after (store : Store) (calls : List (Text × Text)) : Store :=
  calls.foldl (fun store call => (store.runStatement call.1 call.2).store) store

/-- After some statements, the tables are such as a data file gives back. -/
def FaithfulAfter (store : Store) (calls : List (Text × Text)) : Prop :=
  ∃ tables, (store.after calls).load.answer = .ok tables ∧ ∀ table ∈ tables, table.IsFaithful

/-- Where the tables are loaded as they are, the caller sees them and the effect. -/
theorem watch_cons_holding (storage : Storage) {id text : Text} {calls : List (Text × Text)}
    (hload : (⟨storage.holding tables, ids⟩ : Store).load =
      ⟨.ok tables, ⟨storage.holding tables, ids⟩, []⟩) :
    watch ⟨storage.holding tables, ids⟩ ((id, text) :: calls) =
      (.ok tables, some (effect id text tables ids).reply) ::
        watch ⟨storage.holding ((effect id text tables ids).tables tables),
          (effect id text tables ids).left⟩ calls := by
  obtain ⟨hreply, hstore⟩ := runStatement_holding storage id text hload
  rw [watch, hload]
  simp only [hreply, hstore]

theorem faithfulAfter_nil : FaithfulAfter ⟨.memory tables, ids⟩ [] ↔
    ∀ table ∈ tables, table.IsFaithful := by
  constructor
  · rintro ⟨later, hlater, hfaithful⟩
    obtain rfl : tables = later := Except.ok.inj hlater
    exact hfaithful
  · exact fun h => ⟨tables, rfl, h⟩

theorem forall_prefix_cons {α : Type} {P : List α → Prop} {a : α} {as : List α} :
    (∀ front, front <+: a :: as → P front) ↔ P [] ∧ ∀ front, front <+: as → P (a :: front) := by
  constructor
  · exact fun h => ⟨h [] List.nil_prefix, fun front hfront =>
      h _ ((List.prefix_cons_inj a).2 hfront)⟩
  · rintro ⟨hnil, hcons⟩ front hfront
    rcases List.prefix_cons_iff.1 hfront with rfl | ⟨rest, rfl, hrest⟩
    · exact hnil
    · exact hcons rest hrest

theorem faithfulAfter_cons {id text : Text} {front : List (Text × Text)} :
    FaithfulAfter ⟨.memory tables, ids⟩ ((id, text) :: front) ↔
      FaithfulAfter ⟨.memory ((effect id text tables ids).tables tables),
        (effect id text tables ids).left⟩ front := by
  have hstore : ((⟨.memory tables, ids⟩ : Store).runStatement id text).store = _ :=
    (runStatement_holding (.memory []) id text rfl).2
  unfold FaithfulAfter
  rw [show after ⟨.memory tables, ids⟩ ((id, text) :: front) = after _ front from
    congrArg (fun store => after store front) hstore]
  rfl

/-- For tables that a data file can hold, a session in memory and one on their data file show the
same, each time, the tables and the replies, if and only if all the tables that the session in
memory goes through are such as a data file gives back: no row has a field called `id`, and no
text has a high half of a surrogate pair just before a low one. -/
theorem watch_memory_eq_watch_file_iff {tables : List Table} {ids : IdSupply} (path : Text)
    (seeded : Bool) (calls : List (Text × Text))
    (hstorable : ∀ table ∈ tables, table.IsStorable) (hids : ∀ n, ids.name n ≠ []) :
    let memory : Store := ⟨.memory tables, ids⟩
    let file : Store := (save tables ⟨.file path seeded .missing, ids⟩).store
    memory.watch calls = file.watch calls ↔
      ∀ front, front <+: calls → memory.FaithfulAfter front := by
  show watch ⟨.memory tables, ids⟩ calls =
      watch ⟨.file path seeded (.content (tablesToText tables)), ids⟩ calls ↔
    ∀ front, front <+: calls → FaithfulAfter ⟨.memory tables, ids⟩ front
  -- after each statement both still keep the same storable tables, the file as their text
  induction calls generalizing tables ids with
  | nil =>
    simp only [List.prefix_nil, forall_eq, faithfulAfter_nil, watch]
    constructor
    · intro h
      have hfirst : _ = Except.ok tables := (congrArg Prod.fst (List.cons.inj h).1).symm
      exact (load_file_eq_iff path seeded ids hstorable).1 hfirst
    · intro h
      rw [(load_file_eq_iff path seeded ids hstorable).2 h]
      rfl
  | cons call calls ih =>
    obtain ⟨id, text⟩ := call
    obtain ⟨hstorable', hleft⟩ := effect_isStorable id text hstorable hids
    have hids' (n : Nat) : (effect id text tables ids).left.name n ≠ [] := by
      rw [hleft]
      exact hids n
    have hlater := ih hstorable' hids'
    have hmemory : watch ⟨.memory tables, ids⟩ ((id, text) :: calls) = _ :=
      watch_cons_holding (.memory []) rfl
    have hfile (h : ∀ table ∈ tables, table.IsFaithful) :
        watch ⟨.file path seeded (.content (tablesToText tables)), ids⟩ ((id, text) :: calls) = _ :=
      watch_cons_holding (.file path seeded .missing) (load_holding hstorable h)
    rw [forall_prefix_cons, faithfulAfter_nil]
    simp only [faithfulAfter_cons]
    constructor
    · intro h
      -- the first look tells whether the file gives them back, and then it takes the same step
      have hfirst : _ = Except.ok tables := (congrArg Prod.fst (List.cons.inj h).1).symm
      have hfaithful := (load_file_eq_iff path seeded ids hstorable).1 hfirst
      rw [hmemory, hfile hfaithful] at h
      exact ⟨hfaithful, hlater.1 (List.cons.inj h).2⟩
    · rintro ⟨hfaithful, hrest⟩
      rw [hmemory, hfile hfaithful]
      exact congrArg _ (hlater.2 hrest)

theorem uuids_ne_nil (n : Nat) : (IdSupply.ofSequence uuidText).name n ≠ [] := by
  simp [IdSupply.ofSequence, uuidText, joinWith, List.intercalate, ofString]

theorem watch_differs_once_id_is_a_field :
    let table : Table := ⟨"1", .scalar (.text "T"), ["a"], [⟨"r1", .ofList [("a", .text "b")]⟩]⟩
    let memory : Store := ⟨.memory [table], .ofSequence uuidText⟩
    let file : Store :=
      (save [table] ⟨.file "data.json" false .missing, .ofSequence uuidText⟩).store
    memory.watch [("1", "UPDATE T SET a = 'x'")] = file.watch [("1", "UPDATE T SET a = 'x'")] ∧
      memory.watch [("1", "UPDATE T SET id = 'x'")] ≠
        file.watch [("1", "UPDATE T SET id = 'x'")] := by
  intro table memory file
  have hstorable : ∀ t ∈ [table], t.IsStorable := by
    intro t ht
    obtain rfl := List.mem_singleton.1 ht
    refine ⟨⟨"T", rfl⟩, fun row hrow => ?_⟩
    obtain rfl := List.mem_singleton.1 hrow
    refine ⟨by decide, fun field hfield => ?_⟩
    obtain rfl := List.mem_singleton.1 hfield
    trivial
  have hsessions (text : Text) :=
    watch_memory_eq_watch_file_iff "data.json" false [("1", text)] hstorable uuids_ne_nil
  constructor
  · refine (hsessions "UPDATE T SET a = 'x'").2 (forall_prefix_cons.2 ⟨?_, ?_⟩)
    · exact faithfulAfter_nil.2 (by decide +kernel)
    · intro front hfront
      obtain rfl := List.prefix_nil.1 hfront
      have hafter : (after ⟨.memory [⟨"1", .scalar (.text "T"), ["a"],
          [⟨"r1", .ofList [("a", .text "b")]⟩]⟩], .ofSequence uuidText⟩
          [("1", "UPDATE T SET a = 'x'")]).load.answer = .ok [⟨"1", .scalar (.text "T"), ["a"],
            [⟨"r1", .ofList [("a", .text "x")]⟩]⟩] := by decide +kernel
      exact ⟨_, hafter, by decide +kernel⟩
  · intro hsame
    have hafter : (after ⟨.memory [⟨"1", .scalar (.text "T"), ["a"],
        [⟨"r1", .ofList [("a", .text "b")]⟩]⟩], .ofSequence uuidText⟩
        [("1", "UPDATE T SET id = 'x'")]).load.answer = .ok [⟨"1", .scalar (.text "T"), ["a"],
          [⟨"r1", .ofList [("a", .text "b"), ("id", .text "x")]⟩]⟩] := by decide +kernel
    obtain ⟨tables, hload, hfaithful⟩ :=
      (hsessions "UPDATE T SET id = 'x'").1 hsame _ (List.prefix_refl _)
    obtain rfl := Except.ok.inj (hafter.symm.trans hload)
    exact absurd hfaithful (by decide +kernel)

end Store

end TableQuery
