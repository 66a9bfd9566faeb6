import TableQuery.Proofs.Dialect
import TableQuery.Proofs.Execution
import TableQuery.Proofs.SavedTables

/-!
# Statements keep tables storable

* `Value.ofText_isStorable`: no text makes an overlong integer.
* `Statement.WritesStorable`, `Statement.writesStorable_of_parse`: so no statement writes one.
* `Table.Changes.isStorable`, `Statement.Yields.isStorable`: the table that a statement yields can
  be held by a data file.
-/

namespace TableQuery

open Number Text Grammar

/-! ### Literals -/

theorem lt_of_mem_takeDigits {t : Text} : ∀ d ∈ (takeDigits t).1, d < 10 := by
  induction t with
  | nil => simp [takeDigits]
  | cons p t ih =>
    unfold takeDigits
    split
    · rename_i first hfirst
      intro d hd
      rcases List.mem_cons.1 hd with rfl | hmem
      · exact digitValue?_lt hfirst
      · exact ih d hmem
    · simp

theorem Numeral.natAbs_toInt? {t : Text} {numeral : Numeral} {n : Int}
    (h : Numeral.ofText? t = some numeral) (hn : numeral.toInt? = some n) :
    n.natAbs < 10 ^ maxIntegerDigits := by
  refine Numeral.natAbs_lt_of_toInt? ?_ hn
  unfold Numeral.ofText? at h
  simp only at h
  split at h
  · simp at h
  · obtain ⟨exponent, -, rfl⟩ := Option.map_eq_some_iff.1 h
    exact lt_of_mem_takeDigits

theorem Value.ofText_isStorable (t : Text) : (Value.ofText t).IsStorable := by
  unfold Value.ofText
  split
  · trivial
  · rename_i numeral hnumeral
    split
    · rename_i n hn
      exact Numeral.natAbs_toInt? hnumeral hn
    · trivial

/-- Everything that a statement writes to a row can be held by a data file. -/
def Statement.WritesStorable : Statement → Prop
  | .insert s => ∀ value ∈ s.values, value.IsStorable
  | .update s => ∀ assignment ∈ s.assignments, assignment.2.IsStorable
  | _ => True

theorem Grammar.Sequence.forall {α : Type} {item : Category α} {P : α → Prop} {ts : List Token}
    {as : List α} (hitem : ∀ {us : List Token} {a : α}, item us a → P a)
    (h : Sequence item ts as) : ∀ a ∈ as, P a := by
  induction h with
  | single ha =>
    intro a hmem
    rw [List.mem_singleton.1 hmem]
    exact hitem ha
  | more _ _ ha ih =>
    intro b hmem
    rcases List.mem_append.1 hmem with hb | hb
    · exact ih b hb
    · rw [List.mem_singleton.1 hb]
      exact hitem ha

theorem Grammar.Query.writesStorable {ts : List Token} {s : Statement} (h : Query ts s) :
    s.WritesStorable := by
  have hinserted {us : List Token} {value : Value} (hvalue : InsertedValue us value) :
      value.IsStorable := by
    cases hvalue with
    | number _ => exact Value.ofText_isStorable _
    | text _ => trivial
  -- only an `INSERT` and an `UPDATE` bring literals with them
  cases h with
  | insert _ _ _ _ hrow =>
    obtain ⟨_, hsequence, _⟩ := hrow
    exact hsequence.forall hinserted
  | insertColumns _ _ _ _ _ hrow =>
    obtain ⟨_, hsequence, _⟩ := hrow
    exact hsequence.forall hinserted
  | update _ _ _ hassignments _ =>
    refine hassignments.forall fun hassignment => ?_
    cases hassignment with
    | intro _ _ _ => exact Value.ofText_isStorable _
  | _ => trivial

/-- A statement that is parsed writes nothing that a data file cannot hold. -/
theorem Statement.writesStorable_of_parse {text : Text} {s : Statement}
    (h : Statement.parse text = .ok s) : s.WritesStorable := by
  obtain ⟨_, hquery⟩ := Statement.query_of_parse h
  exact hquery.writesStorable

theorem Statement.isStorable_of_mem_written {s : Statement} (h : s.WritesStorable) :
    ∀ value ∈ s.written, value.IsStorable := by
  intro value hvalue
  cases s with
  | select _ => simp [written] at hvalue
  | insert _ => exact h value hvalue
  | update _ =>
    obtain ⟨assignment, hassignment, rfl⟩ := List.mem_map.1 hvalue
    exact h assignment hassignment
  | delete _ => simp [written] at hvalue
  | alter _ alteration =>
    cases alteration with
    | addColumn _ =>
      obtain rfl := List.mem_singleton.1 hvalue
      trivial
    | _ => simp [written, Alteration.written] at hvalue

/-! ### Tables -/

theorem Table.Changes.isStorable {written : List Value} {ids left : IdSupply} {old new : Table}
    (h : old.Changes written ids left new) (hwritten : ∀ value ∈ written, value.IsStorable)
    (hold : old.IsStorable) (hids : ∀ n, ids.name n ≠ []) : new.IsStorable := by
  refine ⟨?_, fun row hrow => ⟨?_, fun field hfield => ?_⟩⟩
  · rcases h.name with hname | hname
    · exact hname ▸ hold.name
    · exact hname
  · have hid : row.id ∈ new.rowIds := List.mem_map_of_mem hrow
    have hold_ne : ∀ i ∈ old.rowIds, i ≠ [] := by
      intro i hi
      obtain ⟨source, hsource, rfl⟩ := List.mem_map.1 hi
      exact (hold.rows source hsource).id_ne_nil
    rcases h.rows with ⟨-, hrows⟩ | ⟨-, hrows⟩
    · exact hold_ne _ (hrows.subset hid)
    · rw [hrows, List.mem_append, List.mem_singleton] at hid
      rcases hid with hid | hid
      · exact hold_ne _ hid
      · exact hid ▸ hids _
  · rcases h.values row hrow field hfield with hnew | ⟨source, hsource, hfield⟩
    · exact hwritten _ hnew
    · exact (hold.rows source hsource).values field hfield

/-- The table that a statement yields can be held by a data file, and the identifiers that are
left come from the same sequence. -/
theorem Statement.Yields.isStorable {statement : Statement} {table : Table} {ids left : IdSupply}
    {result : Result} (hrun : statement.Yields table ids result left)
    (hwrites : statement.WritesStorable) (htable : table.IsStorable)
    (hids : ∀ n, ids.name n ≠ []) :
    (∀ later, result.table? = some later → later.IsStorable) ∧ left.name = ids.name := by
  rcases hrun.changes with ⟨hnone, rfl⟩ | ⟨later, hlater, hchanges⟩
  · exact ⟨fun later hlater => absurd (hnone.symm.trans hlater) (by simp), rfl⟩
  · refine ⟨fun other hother => ?_, ?_⟩
    · obtain rfl := Option.some.inj (hlater.symm.trans hother)
      exact hchanges.isStorable (Statement.isStorable_of_mem_written hwrites) htable hids
    · rcases hchanges.rows with ⟨rfl, -⟩ | ⟨rfl, -⟩ <;> rfl

end TableQuery
