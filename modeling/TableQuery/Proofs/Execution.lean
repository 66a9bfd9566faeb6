import TableQuery.Query.Result

/-!
# What executed statements do

* `hits`, `Filter.mark_eq_ok`: the rows that a filter marks.
* `Filter.mark_of_admits`, `Filter.select_of_admits`: a filter that no row makes fail.
* `Filter.select_eq_error`: a filter that some row makes fail.
* `Deletion.run_eq_ok`, `Update.run_eq_ok`: what a change does, by the rows that it hits.
* `Selection.run_eq_ok`: what a `SELECT` shows; `Selection.run_of_admits`, `Selection.run_of_fault`:
  one of all columns.
* `Table.Changes`: what a change can do to the identifiers, columns and values of its table, with
  one lemma for each kind of statement; a `SELECT` yields no table.
* `Statement.run_eq_ok`: a statement runs on the table that it names, and only an `INSERT` takes an
  identifier.
-/

namespace TableQuery

/-! ### Marked rows -/

/-- Whether a row is known to satisfy a filter; without a filter every row does. -/
def hits (filter : Option Filter) (row : Row) : Bool :=
  match filter with
  | none => true
  | some filter =>
    match filter.admits row with
    | .ok hit => hit
    | .error _ => false

theorem hits_some_iff {filter : Filter} {row : Row} :
    hits (some filter) row = true ↔ filter.admits row = .ok true := by
  cases h : filter.admits row <;> simp [hits, h]

theorem Filter.mark_eq_ok {filter : Filter} {rows : List Row} {marked : List (Row × Bool)}
    (h : filter.mark rows = .ok marked) :
    marked = (rows.map fun row => (row, hits (some filter) row)) := by
  induction rows generalizing marked with
  | nil =>
    obtain rfl : [] = marked := by simpa [Filter.mark] using h
    rfl
  | cons row rows ih =>
    obtain ⟨hit, hadmits, hrest⟩ := bind_eq_ok.1 h
    obtain ⟨more, hmore, hmarked⟩ := bind_eq_ok.1 hrest
    obtain rfl : (row, hit) :: more = marked := by simpa using hmarked
    rw [ih hmore]
    simp [hits, hadmits]

/-- Where no row makes a filter fail, all rows are marked. -/
theorem Filter.mark_of_admits {filter : Filter} {hit : Row → Bool} {rows : List Row}
    (h : ∀ row ∈ rows, filter.admits row = .ok (hit row)) :
    filter.mark rows = .ok (rows.map fun row => (row, hit row)) := by
  induction rows with
  | nil => rfl
  | cons row rows ih =>
    have hmore := ih fun row' hrow' => h row' (List.mem_cons_of_mem _ hrow')
    simp [Filter.mark, h row List.mem_cons_self, hmore]

theorem markRows_eq_ok {filter : Option Filter} {rows : List Row} {marked : List (Row × Bool)}
    (h : markRows filter rows = .ok marked) :
    marked = rows.map fun row => (row, hits filter row) := by
  cases filter with
  | none =>
    obtain rfl : (rows.map fun row => (row, true)) = marked := by simpa [markRows] using h
    rfl
  | some filter => exact Filter.mark_eq_ok h

theorem markedWith_map (answer : Bool) (hit : Row → Bool) (rows : List Row) :
    markedWith answer (rows.map fun row => (row, hit row)) =
      rows.filter fun row => hit row == answer := by
  rw [markedWith, List.filter_map, List.map_map]
  exact List.map_id _

theorem Filter.select_of_admits {filter : Filter} {hit : Row → Bool} {rows : List Row}
    (h : ∀ row ∈ rows, filter.admits row = .ok (hit row)) :
    filter.select rows = .ok (rows.filter hit) := by
  simp [Filter.select, Filter.mark_of_admits h, markedWith_map]

/-- A filter that some row makes fail, where all rows that do so meet the same fault. -/
theorem Filter.select_eq_error {filter : Filter} {fault : Fault} {rows : List Row}
    (hsome : ∃ row ∈ rows, filter.admits row = .error fault)
    (hall : ∀ row ∈ rows, ∀ f, filter.admits row = .error f → f = fault) :
    filter.select rows = .error fault := by
  have hmark : filter.mark rows = .error fault := by
    induction rows with
    | nil => simp at hsome
    | cons row rows ih =>
      obtain ⟨hrow, hrows⟩ := List.forall_mem_cons.1 hall
      cases hadmits : filter.admits row with
      | error f => simp [mark, hadmits, hrow f hadmits, bind_eq_error]
      | ok hit =>
        have hlater : ∃ row ∈ rows, filter.admits row = .error fault := by
          obtain ⟨bad, hbad, hfault⟩ := hsome
          rcases List.mem_cons.1 hbad with rfl | hmem
          · simp [hadmits] at hfault
          · exact ⟨bad, hmem, hfault⟩
        simp [mark, hadmits, bind_eq_error, ih hlater hrows]
  rw [select, bind_eq_error]
  exact .inl hmark

/-- Whether the filter of a `SELECT` keeps a row. A clause that is no comparison is ignored. -/
def keptBy (filter : Option Filter) (row : Row) : Bool :=
  match filter with
  | some (.comparison c) => hits (some (.comparison c)) row
  | _ => true

theorem selectRows_eq_ok {filter : Option Filter} {rows kept : List Row}
    (h : selectRows filter rows = .ok kept) : kept = rows.filter (keptBy filter) := by
  match filter with
  | none =>
    obtain rfl := Except.ok.inj h
    exact (List.filter_eq_self.2 fun _ _ => rfl).symm
  | some (.unparsed _) =>
    obtain rfl := Except.ok.inj h
    exact (List.filter_eq_self.2 fun _ _ => rfl).symm
  | some (.comparison c) =>
    obtain ⟨marked, hmarked, hkept⟩ := bind_eq_ok.1 h
    obtain rfl := Except.ok.inj hkept
    have hkeep : keptBy (some (.comparison c)) = hits (some (.comparison c)) := rfl
    rw [Filter.mark_eq_ok hmarked, markedWith_map, hkeep]
    simp

theorem Deletion.run_eq_ok {deletion : Deletion} {table : Table} {result : Result}
    (h : deletion.run table = .ok result) :
    let hit := hits deletion.filter
    result = .deleted { table with rows := table.rows.filter fun row => !hit row }
      (table.rows.filter hit).length := by
  obtain ⟨marked, hmarked, hresult⟩ := bind_eq_ok.1 h
  rw [mapError_eq_ok] at hmarked
  rw [markRows_eq_ok hmarked] at hresult
  obtain rfl := Except.ok.inj hresult
  simp [markedWith_map]

/-- A row with assignments written to it if it is hit. -/
def Row.assignIf (hit : Bool) (assignments : List (Text × Value)) (row : Row) : Row :=
  if hit then row.assign assignments else row

/-- A row that is hit holds the last value that is assigned to a column, if any. -/
theorem Row.get_assignIf (hit : Bool) (assignments : List (Text × Value)) (row : Row)
    (column : Text) :
    (row.assignIf hit assignments).get column =
      if hit then (Fields.lookup column assignments.reverse).getD (row.get column)
      else row.get column := by
  cases hit with
  | false => rfl
  | true =>
    simp only [assignIf, if_true, assign, get, Record.get?, Record.fields_merge,
      Fields.lookup_insertAll, Option.getD_or]

theorem Update.run_eq_ok {update : Update} {table : Table} {result : Result}
    (h : update.run table = .ok result) :
    let hit := hits update.filter
    result = .updated
      { table with rows := table.rows.map fun row => row.assignIf (hit row) update.assignments }
      (table.rows.filter hit).length := by
  obtain ⟨marked, hmarked, hresult⟩ := bind_eq_ok.1 h
  rw [mapError_eq_ok] at hmarked
  rw [markRows_eq_ok hmarked] at hresult
  obtain rfl := Except.ok.inj hresult
  simp [markedWith_map, Row.assignIf]

/-! ### Changes to a table -/

/-- The identifiers of the rows, in order. -/
def Table.rowIds (table : Table) : List Text :=
  table.rows.map Row.id

/-- A change to a table. The table keeps its identifier, and different columns stay different. Rows
are dropped without taking an identifier, or one is taken for a row at the end. Every field was
there or has one of some values. -/
structure Table.Changes (written : List Value) (ids left : IdSupply) (old new : Table) :
    Prop where
  id_eq : new.id = old.id
  name : new.name = old.name ∨ ∃ name, new.name = .scalar (.text name)
  columns : old.columns.Nodup → new.columns.Nodup
  rows : left = ids ∧ new.rowIds.Sublist old.rowIds ∨
    left = ids.take ∧ new.rowIds = old.rowIds ++ [ids.peek]
  values : ∀ row ∈ new.rows, ∀ field ∈ row.values.fields,
    field.2 ∈ written ∨ ∃ source ∈ old.rows, field ∈ source.values.fields

/-- Changing each row for itself drops none. -/
theorem rowIds_map_sublist {f : Row → Row} (hf : ∀ row, (f row).id = row.id) (rows : List Row) :
    ((rows.map f).map Row.id).Sublist (rows.map Row.id) := by
  have hids : (rows.map f).map Row.id = rows.map Row.id := by
    rw [List.map_map, show Row.id ∘ f = Row.id from funext hf]
  exact hids ▸ List.Sublist.refl _

theorem mem_assign {row : Row} {assignments : List (Text × Value)} {field : Text × Value}
    (h : field ∈ (row.assign assignments).values.fields) :
    field.2 ∈ assignments.map Prod.snd ∨ field ∈ row.values.fields := by
  rw [Row.assign, Record.fields_merge] at h
  rcases Fields.mem_insertAll h with hold | hnew
  · exact Or.inr hold
  · exact Or.inl (List.mem_map_of_mem hnew)

theorem Insertion.changes {insertion : Insertion} {table : Table} {ids left : IdSupply}
    {result : Result} (hrun : insertion.run table ids = .ok (result, left)) :
    ∃ later, result.table? = some later ∧ table.Changes insertion.values ids left later := by
  obtain ⟨columns, -, hrest⟩ := bind_eq_ok.1 hrun
  split at hrest
  · simp at hrest
  · obtain ⟨rfl, rfl⟩ := Prod.mk.inj (Except.ok.inj hrest)
    refine ⟨_, rfl, rfl, Or.inl rfl, id, Or.inr ⟨rfl, by simp [Table.rowIds]⟩, ?_⟩
    intro row hrow field hfield
    rcases List.mem_append.1 hrow with hold | hnew
    · exact Or.inr ⟨row, hold, hfield⟩
    · obtain rfl := List.mem_singleton.1 hnew
      exact Or.inl (List.of_mem_zip (Record.mem_ofList hfield)).2

theorem Update.changes {update : Update} {table : Table} {result : Result} (ids : IdSupply)
    (hrun : update.run table = .ok result) :
    ∃ later, result.table? = some later ∧
      table.Changes (update.assignments.map Prod.snd) ids ids later := by
  rw [Update.run_eq_ok hrun]
  refine ⟨_, rfl, rfl, Or.inl rfl, id,
    Or.inl ⟨rfl, rowIds_map_sublist (fun row => ?_) table.rows⟩, ?_⟩
  · unfold Row.assignIf
    split <;> rfl
  · intro row hrow field hfield
    obtain ⟨source, hsource, rfl⟩ := List.mem_map.1 hrow
    unfold Row.assignIf at hfield
    split at hfield
    · exact (mem_assign hfield).imp_right fun hold => ⟨source, hsource, hold⟩
    · exact Or.inr ⟨source, hsource, hfield⟩

theorem Deletion.changes {deletion : Deletion} {table : Table} {result : Result} (ids : IdSupply)
    (hrun : deletion.run table = .ok result) :
    ∃ later, result.table? = some later ∧ table.Changes [] ids ids later := by
  rw [Deletion.run_eq_ok hrun]
  exact ⟨_, rfl, rfl, Or.inl rfl, id, Or.inl ⟨rfl, List.filter_sublist.map _⟩,
    fun row hrow field hfield => Or.inr ⟨row, (List.mem_filter.1 hrow).1, hfield⟩⟩

/-- The values that an `ALTER TABLE` writes. -/
def Alteration.written : Alteration → List Value
  | .addColumn _ => [.text ""]
  | _ => []

theorem Alteration.changes {alteration : Alteration} {table : Table} {result : Result}
    (ids : IdSupply) (hrun : alteration.run table = .ok result) :
    ∃ later, result.table? = some later ∧ table.Changes alteration.written ids ids later := by
  cases alteration with
  | rename name =>
    obtain rfl := Except.ok.inj hrun
    exact ⟨_, rfl, rfl, Or.inr ⟨name, rfl⟩, id, Or.inl ⟨rfl, .refl _⟩,
      fun row hrow field hfield => Or.inr ⟨row, hrow, hfield⟩⟩
  | addColumn column =>
    unfold Alteration.run at hrun
    simp only at hrun
    split at hrun
    · simp at hrun
    · rename_i hnew
      obtain rfl := Except.ok.inj hrun
      refine ⟨_, rfl, rfl, Or.inl rfl, fun hcolumns => ?_,
        Or.inl ⟨rfl, rowIds_map_sublist (fun row => ?_) table.rows⟩, ?_⟩
      · refine List.nodup_append.2 ⟨hcolumns, by simp, fun name hname other hother => ?_⟩
        rw [List.mem_singleton.1 hother]
        rintro rfl
        exact hnew (List.contains_iff_mem.2 hname)
      · rfl
      · intro row hrow field hfield
        obtain ⟨source, hsource, rfl⟩ := List.mem_map.1 hrow
        exact (mem_assign hfield).imp_right fun hold => ⟨source, hsource, hold⟩
  | dropColumn column =>
    unfold Alteration.run at hrun
    simp only at hrun
    split at hrun
    · obtain rfl := Except.ok.inj hrun
      refine ⟨_, rfl, rfl, Or.inl rfl, fun hcolumns => hcolumns.filter _,
        Or.inl ⟨rfl, rowIds_map_sublist (fun row => ?_) table.rows⟩, ?_⟩
      · rfl
      · intro row hrow field hfield
        obtain ⟨source, hsource, rfl⟩ := List.mem_map.1 hrow
        exact Or.inr ⟨source, hsource, (List.mem_filter.1 hfield).1⟩
    · simp at hrun
  | unsupported action => simp [Alteration.run] at hrun

/-! ### Statements -/

theorem Selection.run_eq_ok {selection : Selection} {table : Table} {result : Result} :
    selection.run table = .ok result ↔
      ∃ columns kept ordered, selection.shownColumns table = .ok columns ∧
        selectRows selection.filter table.rows = .ok kept ∧
        orderRows selection.order kept = .ok ordered ∧
        result = .selected columns (projection (limitRows selection.limit ordered) columns) := by
  simp [Selection.run, bind_eq_ok, mapError_eq_ok, @eq_comm _ result]

theorem Selection.run_of_admits {c : Comparison} {hit : Row → Bool} {table : Table} (name : Text)
    (h : ∀ row ∈ table.rows, (Filter.comparison c).admits row = .ok (hit row)) :
    Selection.run ⟨name, ["*"], some (.comparison c), none, none⟩ table =
      .ok (.selected table.columns (projection (table.rows.filter hit) table.columns)) := by
  simp only [Selection.run, Selection.shownColumns, selectRows, Filter.select_of_admits h]
  rfl

theorem Selection.run_of_fault {c : Comparison} {fault : Fault} {table : Table} (name : Text)
    (h : (Filter.comparison c).select table.rows = .error fault) :
    Selection.run ⟨name, ["*"], some (.comparison c), none, none⟩ table =
      .error (.fault fault) := by
  simp only [Selection.run, Selection.shownColumns, selectRows, h]
  rfl

theorem Selection.table?_eq_none {selection : Selection} {table : Table} {result : Result}
    (hrun : selection.run table = .ok result) : result.table? = none := by
  obtain ⟨columns, kept, ordered, -, -, -, rfl⟩ := Selection.run_eq_ok.1 hrun
  rfl

/-- What a statement yields on a table of its name, with the identifiers that are left. -/
def Statement.Yields (statement : Statement) (table : Table) (ids : IdSupply) (result : Result)
    (left : IdSupply) : Prop :=
  match statement with
  | .select s => s.run table = .ok result ∧ ids = left
  | .insert s => s.run table ids = .ok (result, left)
  | .update s => s.run table = .ok result ∧ ids = left
  | .delete s => s.run table = .ok result ∧ ids = left
  | .alter _ alteration => alteration.run table = .ok result ∧ ids = left

theorem Statement.run_eq_ok {statement : Statement} {table : Table} {ids left : IdSupply}
    {result : Result} :
    statement.run table ids = .ok (result, left) ↔
      table.isNamed statement.table = true ∧ statement.Yields table ids result left := by
  unfold Statement.run
  cases hnamed : table.isNamed statement.table with
  | false => simp
  | true => cases statement <;> simp [Statement.Yields, map_eq_ok, ← and_assoc]

/-- The values that a statement writes to a table. -/
def Statement.written : Statement → List Value
  | .insert s => s.values
  | .update s => s.assignments.map Prod.snd
  | .alter _ alteration => alteration.written
  | _ => []

/-- A statement that yields a table changes its own table into it; one that yields none takes no
identifier. -/
theorem Statement.Yields.changes {statement : Statement} {table : Table} {ids left : IdSupply}
    {result : Result} (h : statement.Yields table ids result left) :
    (result.table? = none ∧ left = ids) ∨
      ∃ later, result.table? = some later ∧ table.Changes statement.written ids left later := by
  cases statement with
  | select selection =>
    obtain ⟨hrun, rfl⟩ := h
    exact Or.inl ⟨Selection.table?_eq_none hrun, rfl⟩
  | insert insertion => exact Or.inr (Insertion.changes h)
  | update update =>
    obtain ⟨hrun, rfl⟩ := h
    exact Or.inr (Update.changes ids hrun)
  | delete deletion =>
    obtain ⟨hrun, rfl⟩ := h
    exact Or.inr (Deletion.changes ids hrun)
  | alter name alteration =>
    obtain ⟨hrun, rfl⟩ := h
    exact Or.inr (Alteration.changes ids hrun)

end TableQuery
