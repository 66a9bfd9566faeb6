import TableQuery.Proofs.AddedColumns

/-!
# A column that comes and goes

Dropping a column takes its field from every row. What is left of the rows does not depend on what
has been written to the column, wherever in a row its field stands: a row may have had a field of
that name before the table had the column.

* `Statement.runAll`: statements in turn.
* `Statement.AssignsOnly`: the statements that write to one column at most.
* `Table.withoutColumn`: the table without a column, which none of them changes.
* `Statement.withoutColumn_of_run`, `Statement.withoutColumn_of_runAll`: one statement, and many.
* `Table.dropping_undoes_adding`: dropping a column that was added brings the table back.
-/

namespace TableQuery

open Text

/-- Run statements in turn, each on the table that the one before it leaves. -/
def Statement.runAll : List Statement → Table → IdSupply → Except Failure (Table × IdSupply)
  | [], table, ids => .ok (table, ids)
  | statement :: rest, table, ids => do
    let answer ← statement.run table ids
    runAll rest (answer.1.table?.getD table) answer.2

/-- A `SELECT`, or an `UPDATE` that assigns to one column only. -/
def Statement.AssignsOnly (column : Text) : Statement → Prop
  | .select _ => True
  | .update s => ∀ assignment ∈ s.assignments, assignment.1 = column
  | _ => False

/-- A table without a column. -/
def Table.withoutColumn (table : Table) (column : Text) : Table :=
  { table with
    columns := table.columns.filter (· != column)
    rows := table.rows.map fun row => { row with values := row.values.erase column } }

variable {table later : Table} {ids left : IdSupply} {column : Text}

/-! ### Statements that write to the column -/

/-- Writing to a column, and to no other, leaves the rest of the record as it is. -/
theorem Record.erase_merge {assignments : List (Text × Value)}
    (h : ∀ assignment ∈ assignments, assignment.1 = column) (r : Record) :
    (r.merge assignments).erase column = r.erase column := by
  refine ext ?_
  show (r.merge assignments).fields.filter _ = r.fields.filter _
  rw [fields_merge]
  refine Fields.filter_insertAll (· != column) (fun name hname => ?_) r.fields
  obtain ⟨assignment, hassignment, rfl⟩ := List.mem_map.1 hname
  simp [h assignment hassignment]

theorem Table.withoutColumn_map_assignIf {assignments : List (Text × Value)}
    (h : ∀ assignment ∈ assignments, assignment.1 = column) (hit : Row → Bool) (table : Table) :
    let assigned := table.rows.map fun row => row.assignIf (hit row) assignments
    withoutColumn { table with rows := assigned } column = table.withoutColumn column := by
  have hrow (row : Row) :
      { row.assignIf (hit row) assignments with
        values := (row.assignIf (hit row) assignments).values.erase column } =
        { row with values := row.values.erase column } := by
    cases hit row with
    | false => rfl
    | true => exact congrArg (Row.mk row.id) (Record.erase_merge h row.values)
  simp only [withoutColumn, List.map_map]
  congr 1
  exact List.map_congr_left fun row _ => hrow row

/-- A statement that writes to no other column leaves the rest of the table as it is. -/
theorem Statement.withoutColumn_of_run {statement : Statement} {result : Result}
    (hassigns : statement.AssignsOnly column)
    (hrun : statement.run table ids = .ok (result, left)) :
    let later := result.table?.getD table
    later.withoutColumn column = table.withoutColumn column ∧ later.columns = table.columns ∧
      left = ids := by
  obtain ⟨-, hyields⟩ := Statement.run_eq_ok.1 hrun
  cases statement with
  | select selection =>
    obtain ⟨hselect, rfl⟩ := hyields
    rw [Selection.table?_eq_none hselect]
    exact ⟨rfl, rfl, rfl⟩
  | update update =>
    obtain ⟨hupdate, rfl⟩ := hyields
    rw [Update.run_eq_ok hupdate]
    exact ⟨Table.withoutColumn_map_assignIf hassigns _ table, rfl, rfl⟩
  | insert _ | delete _ | alter _ _ => exact hassigns.elim

/-- However many such statements are run, the rest of the table stays as it is. -/
theorem Statement.withoutColumn_of_runAll {statements : List Statement}
    (hassigns : ∀ statement ∈ statements, statement.AssignsOnly column)
    (hrun : runAll statements table ids = .ok (later, left)) :
    later.withoutColumn column = table.withoutColumn column ∧ later.columns = table.columns ∧
      left = ids := by
  -- what all statements keep is the table without the column, not the table
  induction statements generalizing table ids with
  | nil =>
    obtain ⟨rfl, rfl⟩ := Prod.mk.inj (Except.ok.inj hrun)
    exact ⟨rfl, rfl, rfl⟩
  | cons statement rest ih =>
    obtain ⟨hfirst, hrest⟩ := List.forall_mem_cons.1 hassigns
    obtain ⟨answer, hanswer, hlater⟩ := bind_eq_ok.1 hrun
    obtain ⟨htable, hcolumns, hleft⟩ := Statement.withoutColumn_of_run hfirst hanswer
    obtain ⟨htable', hcolumns', rfl⟩ := ih hrest hlater
    exact ⟨htable'.trans htable, hcolumns'.trans hcolumns, hleft⟩

/-! ### Adding and dropping -/

theorem Alteration.run_addColumn (hnew : column ∉ table.columns) :
    (Alteration.addColumn column).run table =
      .ok (.columnAdded (table.withColumn column) column) := by
  rw [Alteration.run, if_neg (mt List.contains_iff_mem.1 hnew)]
  rfl

theorem Alteration.run_dropColumn (hold : column ∈ table.columns) :
    (Alteration.dropColumn column).run table =
      .ok (.columnDropped (table.withoutColumn column) column) := by
  rw [Alteration.run, if_pos (List.contains_iff_mem.2 hold)]
  rfl

/-- A new column that is dropped again leaves a table as it was, but for fields of its name. -/
theorem Table.withoutColumn_withColumn (hnew : column ∉ table.columns) :
    (table.withColumn column).withoutColumn column =
      { table with
        rows := table.rows.map fun row => { row with values := row.values.erase column } } := by
  have hassigns : ∀ assignment ∈ [(column, Value.text "")], assignment.1 = column := by simp
  have hrows := withoutColumn_map_assignIf hassigns (fun _ => true)
    { table with columns := table.columns ++ [column] }
  have hcolumns : (table.columns ++ [column]).filter (· != column) = table.columns := by
    have hkept : ∀ name ∈ table.columns, (name != column) = true := fun name hname => by
      simpa using fun heq : name = column => hnew (heq ▸ hname)
    simp [List.filter_eq_self.2 hkept]
  refine hrows.trans ?_
  rw [withoutColumn, hcolumns]

/-- A column that a table does not have can be added and, after any `SELECT`s and any `UPDATE`s that
assign to no other column, dropped. Then the table is as it was before, and each of its rows has the
fields that it had, in their order, except a field with the name of the column. -/
theorem Table.dropping_undoes_adding {name : Text} (hname : table.isNamed name = true)
    (hnew : column ∉ table.columns) (ids : IdSupply) :
    ∃ added,
      (Statement.alter name (.addColumn column)).run table ids =
        .ok (.columnAdded added column, ids) ∧
      ∀ between later left, (∀ statement ∈ between, statement.AssignsOnly column) →
        Statement.runAll between added ids = .ok (later, left) →
        ∃ restored,
          (Statement.alter name (.dropColumn column)).run later left =
            .ok (.columnDropped restored column, ids) ∧
          restored.id = table.id ∧ restored.name = table.name ∧
          restored.columns = table.columns ∧
          (restored.rows.map fun row => (row.id, row.values.fields)) =
            table.rows.map fun row =>
              (row.id, row.values.fields.filter fun field => field.1 != column) := by
  refine ⟨table.withColumn column,
    Statement.run_eq_ok.2 ⟨hname, Alteration.run_addColumn hnew, rfl⟩, ?_⟩
  intro between later left hassigns hrun
  obtain ⟨htable, hcolumns, rfl⟩ := Statement.withoutColumn_of_runAll hassigns hrun
  have hnamed : (later.withoutColumn column).isNamed name = true := by
    rw [htable]
    exact hname
  have hold : column ∈ later.columns := by
    rw [hcolumns]
    exact List.mem_append_right _ (List.mem_singleton_self column)
  refine ⟨_, Statement.run_eq_ok.2 ⟨hnamed, Alteration.run_dropColumn hold, rfl⟩, ?_⟩
  rw [htable, withoutColumn_withColumn hnew]
  exact ⟨rfl, rfl, rfl, by rw [List.map_map]; rfl⟩

theorem Table.dropping_undoes_adding_hidden_field :
    let row (fields : List (Text × Value)) : Row := ⟨"r", .ofList fields⟩
    let table : Table := ⟨"1", .scalar (.text "t"), ["a"],
      [row [("c", .int 5), ("a", .int 1)], row [("b", .int 2)]]⟩
    let ids : IdSupply := .ofSequence uuidText
    let update : Update := ⟨"t", [("c", .int 3)], some (.comparison ⟨"a", .equal, .int 1⟩)⟩
    let selection : Selection := ⟨"t", ["c"], none, some ⟨"c", true⟩, none⟩
    let added : Table := ⟨"1", .scalar (.text "t"), ["a", "c"],
      [row [("c", .text ""), ("a", .int 1)], row [("b", .int 2), ("c", .text "")]]⟩
    let later : Table := { added with
      rows := [row [("c", .int 3), ("a", .int 1)], row [("b", .int 2), ("c", .text "")]] }
    let between : List Statement := [.update update, .select selection]
    let plainRows : List (Text × List (Text × Value)) :=
      [("r", [("a", .int 1)]), ("r", [("b", .int 2)])]
    table.isNamed "t" = true ∧ ofString "c" ∉ table.columns ∧
      (Statement.alter "t" (.addColumn "c")).run table ids = .ok (.columnAdded added "c", ids) ∧
      (∀ statement ∈ between, statement.AssignsOnly "c") ∧
      Statement.runAll between added ids = .ok (later, ids) ∧
      ∃ restored,
        (Statement.alter "t" (.dropColumn "c")).run later ids =
          .ok (.columnDropped restored "c", ids) ∧
        restored.columns = table.columns ∧
        (restored.rows.map fun row => (row.id, row.values.fields)) = plainRows := by
  intro row table ids update selection added later between plainRows
  have hname : table.isNamed "t" = true := by decide
  have hnew : ofString "c" ∉ table.columns := by decide
  have hadd : (Statement.alter "t" (.addColumn "c")).run table ids =
      .ok (.columnAdded added "c", ids) :=
    Statement.run_eq_ok.2 ⟨hname, by decide, rfl⟩
  have hassigns : ∀ statement ∈ between, statement.AssignsOnly "c" := by
    simp [between, Statement.AssignsOnly, update]
  have hupdate : update.run added = .ok (.updated later 1) := by decide +kernel
  have hselect : selection.run later =
      .ok (.selected ["c"] [.ofList [("c", .int 3)], .ofList [("c", .text "")]]) := by
    decide +kernel
  have hrun : Statement.runAll between added ids = .ok (later, ids) :=
    bind_eq_ok.2 ⟨_, Statement.run_eq_ok.2 ⟨hname, hupdate, rfl⟩,
      bind_eq_ok.2 ⟨_, Statement.run_eq_ok.2 ⟨hname, hselect, rfl⟩, rfl⟩⟩
  obtain ⟨found, hfound, hundone⟩ := Table.dropping_undoes_adding hname hnew ids
  obtain rfl : found = added := by simpa using hfound.symm.trans hadd
  obtain ⟨restored, hdrop, -, -, hcolumns, hrows⟩ := hundone _ later ids hassigns hrun
  exact ⟨hname, hnew, hadd, hassigns, hrun, restored, hdrop, hcolumns, hrows.trans (by decide)⟩

end TableQuery
