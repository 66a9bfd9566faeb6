import TableQuery.Proofs.StorableStatements
import TableQuery.Proofs.StoredTexts

/-!
# Repeating an update

An `UPDATE` that is run twice in a row may count fewer rows the second time, but it changes nothing
more: a row that it has written is not changed by writing it again, and a row that it has passed
over is passed over again.

* `Value.looselyEqual_ofText_self`: a literal is equal to itself.
* `Statement.assigns_of_parse`: an `UPDATE` assigns what is read from texts.
* `Row.assign_assign`: writing the same assignments again changes nothing.
* `Update.Rewrites`: what an `UPDATE` makes of a row.
* `Update.repeats_without_change`: an `UPDATE` writes what can be read again, and only once.
-/

namespace TableQuery

open Number Text Grammar

/-! ### What is assigned -/

/-- No literal is read as a NaN, so every one is equal to itself. -/
theorem Value.looselyEqual_ofText_self (t : Text) :
    (Value.ofText t).looselyEqual (.ofText t) = .ok true := by
  cases hnumeral : numeral? t with
  | none => simp [ofText, hnumeral, looselyEqual, isNumber, numericText?, format, isOverlong]
  | some numeral =>
    cases hint : numeral.toInt? with
    | some n => simp [ofText, hnumeral, hint, looselyEqual, isNumber, place?, sameNumber]
    | none =>
      simpa [ofText, hnumeral, hint, looselyEqual, isNumber, place?] using
        sameNumber_self numeral.extended?_toDouble

theorem Statement.assigns_of_parse {text : Text} {update : Update}
    (h : Statement.parse text = .ok (.update update)) :
    ∀ assignment ∈ update.assignments, ∃ t, assignment.2 = .ofText t := by
  obtain ⟨_, hquery⟩ := Statement.query_of_parse h
  cases hquery with
  | update _ _ _ hassignments _ =>
    refine hassignments.forall fun hassignment => ?_
    cases hassignment with
    | intro _ _ _ => exact ⟨_, rfl⟩

/-! ### One row -/

section Row

variable {row : Row} {assignments : List (Text × Value)}

/-- Writing the same assignments again changes nothing. -/
theorem Row.assign_assign :
    (row.assign assignments).assign assignments = row.assign assignments := by
  have hvalues : (row.values.merge assignments).merge assignments = row.values.merge assignments :=
    Record.ext (by simp [Record.fields_merge, Fields.insertAll_insertAll row.values.nodup])
  simp [Row.assign, hvalues]

theorem Row.get_assign_of_last {front back : List (Text × Value)} {column : Text} {value : Value}
    (hsplit : assignments = front ++ (column, value) :: back) (hlast : column ∉ Fields.names back) :
    (row.assign assignments).get column = value := by
  have hlookup : ((row.assign assignments).values.get? column) = some value := by
    rw [Row.assign, Record.get?, Record.fields_merge, hsplit]
    exact Fields.lookup_insertAll_of_last _ front hlast
  rw [Row.get, hlookup, Option.getD_some]

/-- The fields of a row under names that are not among some columns, in order. -/
def Row.fieldsExcept (row : Row) (columns : List Text) : List (Text × Value) :=
  row.values.fields.filter fun field => !columns.contains field.1

theorem Row.fieldsExcept_assign {columns : List Text}
    (h : Fields.names assignments ⊆ columns) :
    (row.assign assignments).fieldsExcept columns = row.fieldsExcept columns := by
  rw [fieldsExcept, assign, Record.fields_merge]
  exact Fields.filter_insertAll (fun name => !columns.contains name)
    (fun name hname => by simpa using h hname) _

/-- A row that an update has passed over, or written, is not changed by the update again, and it is
counted again only if it was counted. -/
theorem Row.assignIf_again (hit : Row → Bool) (row : Row) (assignments : List (Text × Value)) :
    let later := row.assignIf (hit row) assignments
    later.assignIf (hit later) assignments = later ∧ (hit later = true → hit row = true) := by
  cases hrow : hit row with
  | false => simp [Row.assignIf, hrow]
  | true =>
    -- whether the filter still admits the row makes no difference
    cases hit (row.assign assignments) <;> simp [Row.assignIf, Row.assign_assign]

end Row

/-! ### All rows -/

/-- What an update makes of a row. The row keeps its identifier, and its fields that are not
assigned, in their order. If it satisfies the filter, each assigned column then holds the last value
that is assigned to it, and is equal to that; if not, the row stays as it is. -/
structure Update.Rewrites (update : Update) (old new : Row) : Prop where
  id_eq : new.id = old.id
  others : new.fieldsExcept (Fields.names update.assignments) =
    old.fieldsExcept (Fields.names update.assignments)
  hit : hits update.filter old = true →
    ∀ front column value back, update.assignments = front ++ (column, value) :: back →
      column ∉ Fields.names back →
      new.get column = value ∧ Operator.equal.holds (new.get column) value = .ok true
  passed : hits update.filter old = false → new = old

theorem Update.rewrites {update : Update}
    (h : ∀ assignment ∈ update.assignments, ∃ t, assignment.2 = .ofText t) (row : Row) :
    update.Rewrites row (row.assignIf (hits update.filter row) update.assignments) := by
  cases hrow : hits update.filter row with
  | false => exact ⟨rfl, rfl, by simp [hrow], fun _ => rfl⟩
  | true =>
    refine ⟨rfl, Row.fieldsExcept_assign (List.Subset.refl _), ?_, by simp [hrow]⟩
    intro _ front column value back hsplit hlast
    obtain ⟨t, rfl⟩ : ∃ t, value = .ofText t := h (column, value) (by simp [hsplit])
    have hget : (row.assign update.assignments).get column = .ofText t :=
      Row.get_assign_of_last hsplit hlast
    exact ⟨hget, hget ▸ Value.looselyEqual_ofText_self t⟩

/-- An update changes nothing in rows that it has been through, and it counts no more of them. -/
theorem Update.rows_again (update : Update) (rows : List Row) :
    let rewrite (row : Row) : Row := row.assignIf (hits update.filter row) update.assignments
    (rows.map rewrite).map rewrite = rows.map rewrite ∧
      ((rows.map rewrite).filter (hits update.filter)).length ≤
        (rows.filter (hits update.filter)).length := by
  intro rewrite
  have hagain (row : Row) := row.assignIf_again (hits update.filter) update.assignments
  constructor
  · rw [List.map_map]
    exact List.map_congr_left fun row _ => (hagain row).1
  · rw [← List.countP_eq_length_filter, ← List.countP_eq_length_filter, List.countP_map]
    exact List.countP_mono_left fun row _ => (hagain row).2

/-- An `UPDATE` that has been parsed and run has written, to each row that satisfies its filter,
what can be read there again, and has left the other rows and the other fields as they were. If it
is run once more without a failure, the table stays the same, and no more rows are counted. -/
theorem Update.repeats_without_change {text : Text} {update : Update} {table : Table}
    {ids left : IdSupply} {first : Result} (hparse : Statement.parse text = .ok (.update update))
    (hrun : (Statement.update update).run table ids = .ok (first, left)) :
    ∃ later count, first = .updated later count ∧ left = ids ∧
      count = (table.rows.filter (hits update.filter)).length ∧
      later.id = table.id ∧ later.name = table.name ∧ later.columns = table.columns ∧
      List.Forall₂ update.Rewrites table.rows later.rows ∧
      ∀ second left', (Statement.update update).run later left = .ok (second, left') →
        ∃ again, second = .updated later again ∧ again ≤ count ∧ left' = ids := by
  obtain ⟨-, hfirst, rfl⟩ := Statement.run_eq_ok.1 hrun
  have hassigns := Statement.assigns_of_parse hparse
  obtain ⟨hrows, hcount⟩ := update.rows_again table.rows
  refine ⟨_, _, Update.run_eq_ok hfirst, rfl, rfl, rfl, rfl, rfl, ?_, ?_⟩
  · exact List.forall₂_map_right_iff.2
      (List.forall₂_same.2 fun row _ => update.rewrites hassigns row)
  · intro second left' hagain
    obtain ⟨-, hsecond, rfl⟩ := Statement.run_eq_ok.1 hagain
    refine ⟨_, ?_, hcount, rfl⟩
    rw [Update.run_eq_ok hsecond]
    simp only [hrows]

theorem Update.repeats_without_change_new_column :
    let text : Text := "UPDATE t SET b = x, a = '07', b = y WHERE a < 5"
    let update : Update := ⟨"t", [("b", .text "x"), ("a", .int 7), ("b", .text "y")],
      some (.comparison ⟨"a", .less, .int 5⟩)⟩
    let row (a : Int) (more : List (Text × Value)) : Row :=
      ⟨"r", .ofList (("k", .null) :: ("a", .int a) :: more)⟩
    let table : Table := ⟨"1", .scalar (.text "t"), ["a"], [row 1 [], row 9 []]⟩
    let later : Table := { table with rows := [row 7 [("b", .text "y")], row 9 []] }
    let ids : IdSupply := .ofSequence uuidText
    Statement.parse text = .ok (.update update) ∧
      (Statement.update update).run table ids = .ok (.updated later 1, ids) ∧
      List.Forall₂ update.Rewrites table.rows later.rows ∧
      (Statement.update update).run later ids = .ok (.updated later 0, ids) := by
  intro text update row table later ids
  have hparse : Statement.parse text = .ok (.update update) := by decide +kernel
  have hnamed : table.isNamed "t" = true := by decide
  have hfirst : update.run table = .ok (.updated later 1) := by decide +kernel
  have hsecond : update.run later = .ok (.updated later 0) := by decide +kernel
  have hrun : (Statement.update update).run table ids = .ok (.updated later 1, ids) :=
    Statement.run_eq_ok.2 ⟨hnamed, hfirst, rfl⟩
  have hagain : (Statement.update update).run later ids = .ok (.updated later 0, ids) :=
    Statement.run_eq_ok.2 ⟨hnamed, hsecond, rfl⟩
  obtain ⟨_, _, hresult, -, -, -, -, -, hrewrites, -⟩ := Update.repeats_without_change hparse hrun
  obtain ⟨rfl, rfl⟩ := Result.updated.inj hresult
  exact ⟨hparse, hrun, hrewrites, hagain⟩

end TableQuery
