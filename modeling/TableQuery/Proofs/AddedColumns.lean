import TableQuery.Proofs.BuiltQueries
import TableQuery.Proofs.Execution

/-!
# Selecting an added column

A column can have any text as its name. A `SELECT` takes the name `*` for all columns, quoted or
not, and looks for a name without the blanks around it.

* `addingText`, `showingText`: the query that adds a column, and the one that selects it.
* `Table.withColumn`: the table with a further column.
* `Table.shows_added_column_iff`: which columns are shown once they are added.
-/

namespace TableQuery

open Number Text Grammar

/-- The query that adds a column. -/
def addingText (table column : Text) : Text :=
  "ALTER TABLE " ++ spellName table ++ " ADD COLUMN " ++ spellName column

/-- The query for the fields of a column. -/
def showingText (table column : Text) : Text :=
  "SELECT " ++ spellName column ++ " FROM " ++ spellName table

theorem parse_addingText (table column : Text) :
    Statement.parse (addingText table column) = .ok (.alter table (.addColumn column)) := by
  have haction : ("ADD COLUMN" : Text) =
      Keyword.ADD.name ++ Point.char ' ' :: Keyword.COLUMN.name := rfl
  have hreads :
      Reads (Query · (.alter table (.addColumn column))) (addingText table column) [] := by
    have hspell : addingText table column =
        "ALTER TABLE " ++ spellName table ++ " " ++ "ADD COLUMN" ++ " " ++ spellName column := by
      simp only [addingText, List.append_assoc]
      rfl
    rw [hspell]
    refine reads_alter table haction fun first second target hfirst hsecond htarget hname => ?_
    rw [← hname]
    exact .addColumn hfirst hsecond htarget
  exact Statement.parse_of_reads hreads rfl (endsSolid_append (endsSolid_spellName _) _)

theorem parse_showingText (table column : Text) :
    Statement.parse (showingText table column) =
      .ok (.select ⟨table, [column], none, none, none⟩) := by
  have hspell : showingText table column =
      Keyword.SELECT.name ++ Point.char ' ' :: (spellName column ++ Point.char ' ' ::
        (Keyword.FROM.name ++ Point.char ' ' :: spellName table)) := by
    simp only [showingText, List.append_assoc]
    rfl
  have hfrom := Reads.keyword .FROM (reads_phrase table [])
  have hreads : Reads (Query · (.select ⟨table, [column], none, none, none⟩))
      (showingText table column) [] := by
    rw [hspell]
    refine (Reads.keyword .SELECT (Reads.name column hfrom.blank)).mono ?_
    rintro _ ⟨first, _, rfl, hfirst, cs, _, rfl, hcs, from_, ns, rfl, hfrom, hns⟩
    simpa using Query.select hfirst (.single (.name hcs)) hfrom hns .none .none .none
  exact Statement.parse_of_reads hreads rfl (endsSolid_append (endsSolid_spellName _) _)

/-- A table with a further column, filled with empty text. -/
def Table.withColumn (table : Table) (column : Text) : Table :=
  { table with
    columns := table.columns ++ [column]
    rows := table.rows.map fun row => row.assign [(column, .text "")] }

theorem Selection.shownColumns_singleton (name column : Text) (table : Table) :
    shownColumns ⟨name, [column], none, none, none⟩ table =
      if column = "*" then .ok table.columns
      else if trim column ∈ table.columns then .ok [trim column]
      else .error (.noValidColumns table.columns) := by
  unfold shownColumns
  by_cases hstar : column = "*"
  · simp [hstar]
  · by_cases htrim : trim column ∈ table.columns <;> simp [hstar, htrim, eq_comm]

theorem Selection.run_singleton (name column : Text) (table : Table) :
    Selection.run ⟨name, [column], none, none, none⟩ table =
      ((shownColumns ⟨name, [column], none, none, none⟩ table).mapError .query).map
        fun columns => .selected columns (projection table.rows columns) := by
  unfold Selection.run
  cases shownColumns ⟨name, [column], none, none, none⟩ table <;> rfl

/-- A column that was added is shown if its name is not taken for something else. -/
theorem Selection.shownColumns_withColumn_iff (name column : Text) (table : Table) :
    shownColumns ⟨name, [column], none, none, none⟩ (table.withColumn column) = .ok [column] ↔
      trim column = column ∧ (column = "*" → table.columns = []) := by
  rw [shownColumns_singleton]
  split
  · rename_i hstar
    have htrim : trim column = column := hstar ▸ (by decide : trim "*" = ofString "*")
    simp [Table.withColumn, htrim, hstar.symm]
  · rename_i hstar
    split
    · simp [hstar]
    · rename_i habsent
      have htrim : trim column ≠ column := fun htrim => habsent (by simp [htrim, Table.withColumn])
      simp [htrim]

theorem Row.project_assign_singleton (row : Row) (column : Text) (value : Value) :
    (row.assign [(column, value)]).values.project [column] = .ofList [(column, value)] := by
  simp [Row.assign, Record.project, Record.merge, Record.get?_set]

theorem Table.projection_withColumn (table : Table) (column : Text) :
    projection (table.withColumn column).rows [column] =
      table.rows.map fun _ => .ofList [(column, .text "")] := by
  simp only [projection, withColumn, List.map_map]
  exact List.map_congr_left fun row _ => row.project_assign_singleton column _

/-- Adding a column and selecting it are two queries for every name. The first one fails only if
the table has the column. The second one then shows this column alone, with empty text in every
row, unless there are blanks around the name, or it is `*` and the table had other columns. For `*`
all columns are shown, and with blanks the column without them, if there is one. -/
theorem Table.shows_added_column_iff {table : Table} {name : Text}
    (hname : table.isNamed name = true) (column : Text) (ids : IdSupply) :
    let later := table.withColumn column
    ∃ addition selection,
      Statement.parse (addingText name column) = .ok addition ∧
      Statement.parse (showingText name column) = .ok selection ∧
      (column ∈ table.columns → addition.run table ids = .error (.query (.columnExists column))) ∧
      (column ∉ table.columns →
        addition.run table ids = .ok (.columnAdded later column, ids) ∧
        (selection.run later ids =
            .ok (.selected [column] (table.rows.map fun _ => .ofList [(column, .text "")]), ids) ↔
          trim column = column ∧ (column = "*" → table.columns = [])) ∧
        (column = "*" → selection.run later ids =
          .ok (.selected later.columns (projection later.rows later.columns), ids)) ∧
        (trim column ≠ column → selection.run later ids =
          if trim column ∈ table.columns then
            .ok (.selected [trim column] (projection later.rows [trim column]), ids)
          else .error (.query (.noValidColumns later.columns)))) := by
  intro later
  have hshow : (Statement.select ⟨name, [column], none, none, none⟩).run later ids =
      ((Selection.shownColumns ⟨name, [column], none, none, none⟩ later).mapError .query).map
        fun columns => (.selected columns (projection later.rows columns), ids) := by
    have hlater : later.isNamed name = true := hname
    simp only [Statement.run, Statement.table, hlater, Selection.run_singleton]
    cases Selection.shownColumns ⟨name, [column], none, none, none⟩ later <;> rfl
  refine ⟨_, _, parse_addingText name column, parse_showingText name column, fun hold => ?_,
    fun hnew => ⟨?_, ?_, fun hstar => ?_, fun hblank => ?_⟩⟩
  · simp only [Statement.run, Statement.table, hname, Alteration.run]
    rw [if_neg (by decide), if_pos (List.contains_iff_mem.2 hold)]
    rfl
  · simp only [Statement.run, Statement.table, hname, Alteration.run]
    rw [if_neg (by decide), if_neg (mt List.contains_iff_mem.1 hnew)]
    rfl
  · rw [hshow, ← Selection.shownColumns_withColumn_iff name column table,
      ← Table.projection_withColumn]
    cases Selection.shownColumns ⟨name, [column], none, none, none⟩ later with
    | error e => constructor <;> intro h <;> cases h
    | ok shown =>
      simp only [Except.mapError, Except.map, Except.ok.injEq, Prod.mk.injEq, and_true,
        Result.selected.injEq]
      constructor
      · exact And.left
      · rintro rfl
        exact ⟨rfl, rfl⟩
  · rw [hshow, Selection.shownColumns_singleton, if_pos hstar]
    rfl
  · have hstar : column ≠ "*" := by
      rintro rfl
      exact hblank (by decide)
    have hmem : trim column ∈ later.columns ↔ trim column ∈ table.columns := by
      simp [later, Table.withColumn, hblank]
    rw [hshow, Selection.shownColumns_singleton, if_neg hstar]
    simp only [hmem]
    split <;> rfl

theorem Table.shows_added_column_blanks_and_star :
    let row : Row := ⟨"r", .ofList [("a", .int 1)]⟩
    let table : Table := ⟨"1", .scalar (.text "t"), ["a"], [row]⟩
    let ids : IdSupply := .ofSequence uuidText
    (∃ addition selection later,
      Statement.parse "ALTER TABLE \"t\" ADD COLUMN \" x \"" = .ok addition ∧
      addition.run table ids = .ok (.columnAdded later " x ", ids) ∧
      Statement.parse "SELECT \" x \" FROM \"t\"" = .ok selection ∧
      selection.run later ids = .error (.query (.noValidColumns ["a", " x "]))) ∧
    ∃ addition selection later,
      Statement.parse "ALTER TABLE \"t\" ADD COLUMN \"*\"" = .ok addition ∧
      addition.run table ids = .ok (.columnAdded later "*", ids) ∧
      Statement.parse "SELECT \"*\" FROM \"t\"" = .ok selection ∧
      selection.run later ids =
        .ok (.selected ["a", "*"] [.ofList [("a", .int 1), ("*", .text "")]], ids) := by
  intro row table ids
  have hname : table.isNamed "t" = true := by decide
  constructor
  · obtain ⟨addition, selection, haddition, hselection, -, hshow⟩ :=
      Table.shows_added_column_iff hname " x " ids
    obtain ⟨hadd, -, -, hblank⟩ := hshow (by decide)
    exact ⟨addition, selection, _, haddition, hadd, hselection, hblank (by decide)⟩
  · obtain ⟨addition, selection, haddition, hselection, -, hshow⟩ :=
      Table.shows_added_column_iff hname "*" ids
    obtain ⟨hadd, -, hstar, -⟩ := hshow (by decide)
    refine ⟨addition, selection, _, haddition, hadd, hselection, (hstar rfl).trans ?_⟩
    have hrows : projection (table.withColumn "*").rows (table.withColumn "*").columns =
        [.ofList [("a", .int 1), ("*", .text "")]] := by decide
    rw [hrows]
    rfl

end TableQuery
