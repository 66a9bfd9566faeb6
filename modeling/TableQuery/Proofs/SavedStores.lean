import TableQuery.Proofs.Sessions

/-!
# A data file gives back what was saved in it

* `Table.texts`: all the texts in a table.
* `Table.isFaithful_iff`: which tables come back as they are, by their texts.
* `FileState.IsWritable`: a data file that can be written.
* `Store.load_save`: what is loaded after tables were saved.
* `Store.load_save_joins_pair`: two halves that make a pair come back as one character.
-/

namespace TableQuery

open Json Text

/-! ### The texts of a table -/

/-- The text that a value is, or none. -/
def Value.texts : Value → List Text
  | .text t => [t]
  | _ => []

/-- The texts of a row: its identifier, the names of its fields, and those of its values that are
texts. -/
def Row.texts (row : Row) : List Text :=
  row.id :: row.values.fields.flatMap fun field => field.1 :: field.2.texts

/-- The texts of a table: its identifier, its name, its columns, and the texts of its rows. -/
def Table.texts (table : Table) : List Text :=
  table.id :: table.name.value.texts ++ table.columns ++ table.rows.flatMap Row.texts

theorem Value.isPairFree_iff {value : Value} :
    value.IsPairFree ↔ ∀ t ∈ value.texts, Json.IsPairFree t := by
  cases value <;> simp [Value.IsPairFree, Value.texts]

theorem Row.isFaithful_iff {row : Row} (hno : ofString "id" ∉ row.values.names) :
    row.IsFaithful ↔ ∀ t ∈ row.texts, Json.IsPairFree t := by
  have hfields : (∀ t ∈ row.texts, Json.IsPairFree t) ↔ Json.IsPairFree row.id ∧
      ∀ field ∈ row.values.fields, Json.IsPairFree field.1 ∧ field.2.IsPairFree := by
    simp only [Row.texts, List.forall_mem_cons, List.forall_mem_flatMap, Value.isPairFree_iff]
  rw [hfields]
  exact ⟨fun h => ⟨h.id, h.fields⟩, fun h => ⟨hno, h.1, h.2⟩⟩

/-- Without fields called `id`, it is only the texts of a table that decide. -/
theorem Table.isFaithful_iff {table : Table}
    (hno : ∀ row ∈ table.rows, ofString "id" ∉ row.values.names) :
    table.IsFaithful ↔ ∀ t ∈ table.texts, Json.IsPairFree t := by
  have hrows : (∀ row ∈ table.rows, row.IsFaithful) ↔
      ∀ row ∈ table.rows, ∀ t ∈ row.texts, Json.IsPairFree t :=
    forall₂_congr fun row hrow => Row.isFaithful_iff (hno row hrow)
  have htexts : (∀ t ∈ table.texts, Json.IsPairFree t) ↔ Json.IsPairFree table.id ∧
      table.name.value.IsPairFree ∧ (∀ column ∈ table.columns, Json.IsPairFree column) ∧
      ∀ row ∈ table.rows, row.IsFaithful := by
    simp only [Table.texts, List.cons_append, List.forall_mem_cons, List.forall_mem_append,
      List.forall_mem_flatMap, Value.isPairFree_iff, hrows, and_assoc]
  rw [htexts]
  constructor
  · exact fun h => ⟨h.id, h.name, h.columns, h.rows⟩
  · rintro ⟨hid, hname, hcolumns, hfaithful⟩
    exact ⟨hid, hname, hcolumns, hfaithful⟩

/-! ### Saving and loading -/

/-- Nothing stands under the path of a data file, or a file that can be overwritten. -/
def FileState.IsWritable : FileState → Prop
  | .missing | .content _ => True
  | .unreadable _ | .unreachable _ => False

namespace Store

variable {tables : List Table}

theorem save_file (tables : List Table) {state : FileState} (path : Text) (seeded : Bool)
    (ids : IdSupply) (hstate : state.IsWritable) :
    (save tables ⟨.file path seeded state, ids⟩).answer = .ok () ∧
      (save tables ⟨.file path seeded state, ids⟩).store =
        ⟨.file path seeded (.content (tablesToText tables)), ids⟩ := by
  cases state with
  | missing | content => exact ⟨rfl, rfl⟩
  | unreadable | unreachable => exact hstate.elim

/-- Without fields called `id`, tables that were saved are loaded with their pairs joined, and
nothing happens to the store. -/
theorem load_saved (path : Text) (seeded : Bool) (ids : IdSupply)
    (hstorable : ∀ table ∈ tables, table.IsStorable)
    (hno : ∀ table ∈ tables, ∀ row ∈ table.rows, ofString "id" ∉ row.values.names) :
    (⟨.file path seeded (.content (tablesToText tables)), ids⟩ : Store).load =
      ⟨.ok (tables.map Table.reread),
        ⟨.file path seeded (.content (tablesToText tables)), ids⟩, []⟩ := by
  unfold load
  simp only
  rw [contentsOfText_of_no_id hstorable hno]
  rfl

/-- Tables that a data file can hold, and none of whose rows has a field called `id`, are saved
without a failure and loaded again without taking an identifier and without writing the file. They
come back as they were if and only if no text in them has a high half of a surrogate pair just
before a low one. -/
theorem load_save {state : FileState} (path : Text) (seeded : Bool) (ids : IdSupply)
    (hstate : state.IsWritable) (hstorable : ∀ table ∈ tables, table.IsStorable)
    (hno : ∀ table ∈ tables, ∀ row ∈ table.rows, ofString "id" ∉ row.values.names) :
    let saved := save tables ⟨.file path seeded state, ids⟩
    saved.answer = .ok () ∧ saved.store.ids = ids ∧ saved.store.load.store = saved.store ∧
      ∃ loaded, saved.store.load.answer = .ok loaded ∧
        (loaded = tables ↔ ∀ table ∈ tables, ∀ t ∈ table.texts, Json.IsPairFree t) := by
  intro saved
  obtain ⟨hanswer, hstore⟩ := save_file tables path seeded ids hstate
  have hload : saved.store.load = _ :=
    (congrArg load hstore).trans (load_saved path seeded ids hstorable hno)
  refine ⟨hanswer, congrArg Store.ids hstore, ?_, tables.map Table.reread, ?_, ?_⟩
  · rw [hload]
    exact hstore.symm
  · rw [hload]
  · rw [map_eq_self_iff]
    refine forall₂_congr fun table htable => ?_
    rw [Table.reread_eq_self_iff (hstorable table htable), Table.isFaithful_iff (hno table htable)]

/-- A table with a single row, whose only field holds a value. -/
def tableOfValue (value : Value) : Table :=
  ⟨"1", .scalar (.text "T"), ["a"], [⟨"r1", .ofList [("a", value)]⟩]⟩

theorem tableOfValue_isStorable {value : Value} (h : value.IsStorable) :
    ∀ table ∈ [tableOfValue value], table.IsStorable := by
  intro table htable
  obtain rfl := List.mem_singleton.1 htable
  refine ⟨⟨"T", rfl⟩, fun row hrow => ?_⟩
  obtain rfl := List.mem_singleton.1 hrow
  have hid : ofString "r1" ≠ [] := by decide
  refine ⟨hid, fun field hfield => ?_⟩
  obtain rfl := List.mem_singleton.1 hfield
  exact h

theorem tableOfValue_no_id (value : Value) :
    ∀ table ∈ [tableOfValue value], ∀ row ∈ table.rows, ofString "id" ∉ row.values.names := by
  intro table htable row hrow
  obtain rfl := List.mem_singleton.1 htable
  obtain rfl := List.mem_singleton.1 hrow
  show ofString "id" ∉ [ofString "a"]
  decide

/-- A high half of a surrogate pair. -/
def highHalf : Point :=
  .half ⟨0xD83D, by decide⟩

/-- A low half of a surrogate pair. -/
def lowHalf : Point :=
  .half ⟨0xDE00, by decide⟩

theorem load_save_reversed_pair :
    let table := tableOfValue (.text [lowHalf, highHalf, Char.ofNat 0x1F600, '\n'])
    let saved := save [table] ⟨.file "data.json" false .missing, .ofSequence uuidText⟩
    FileState.missing.IsWritable ∧ (∀ t ∈ [table], t.IsStorable) ∧
      (∀ t ∈ [table], ∀ row ∈ t.rows, ofString "id" ∉ row.values.names) ∧
      saved.store.load.answer = .ok [table] := by
  intro table saved
  have hstorable : ∀ t ∈ [table], t.IsStorable := tableOfValue_isStorable trivial
  have hno := tableOfValue_no_id (.text [lowHalf, highHalf, Char.ofNat 0x1F600, '\n'])
  have hmissing : FileState.missing.IsWritable := trivial
  obtain ⟨-, -, -, loaded, hload, hsame⟩ :=
    load_save "data.json" false (.ofSequence uuidText) hmissing hstorable hno
  obtain rfl := hsame.2 (by decide +kernel)
  exact ⟨hmissing, hstorable, hno, hload⟩

/-- Two halves that make a pair come back as one character. -/
theorem load_save_joins_pair :
    let table := tableOfValue (.text [highHalf, lowHalf])
    let saved := save [table] ⟨.file "data.json" false .missing, .ofSequence uuidText⟩
    (∀ t ∈ [table], t.IsStorable) ∧
      (∀ t ∈ [table], ∀ row ∈ t.rows, ofString "id" ∉ row.values.names) ∧
      saved.store.load.answer = .ok [tableOfValue (.text [Char.ofNat 0x1F600])] ∧
      saved.store.load.answer ≠ .ok [table] := by
  refine ⟨tableOfValue_isStorable trivial, tableOfValue_no_id _, ?_, ?_⟩
  · decide +kernel
  · decide +kernel

end Store

end TableQuery
