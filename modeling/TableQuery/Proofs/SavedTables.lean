import TableQuery.DataFile
import TableQuery.Proofs.JsonDocuments

/-!
# Tables that are saved and loaded

* `Table.IsStorable`: tables that a data file can hold.
* `Table.reread`: a table as it is loaded, if no field replaces an identifier.
* `contentsOfText_saved`: what is loaded from the file of some tables.
* `Table.IsFaithful`, `Table.reread_eq_self_iff`: the tables that come back as they are.
* `contentsOfText_eq_iff`: a list of tables is loaded again just if all its tables are such.
-/

namespace TableQuery

open Json Text

/-! ### Fields read back -/

theorem joinHalves_ne_nil {t : Text} (h : t ≠ []) : joinHalves t ≠ [] := by
  unfold joinHalves
  split
  · split <;> simp
  · exact h

/-- Joining pairs either changes nothing or leaves a code point beyond the basic plane. -/
theorem joinHalves_eq_or (t : Text) :
    joinHalves t = t ∨ ∃ p ∈ joinHalves t, 0x10000 ≤ p.value := by
  induction t using joinHalves.induct with
  | case1 p q rest hpair ih =>
    rw [joinHalves, if_pos hpair]
    exact Or.inr ⟨_, List.mem_cons_self, value_joined hpair⟩
  | case2 p q rest hpair ih =>
    rw [joinHalves, if_neg hpair]
    rcases ih with hsame | ⟨r, hr, hvalue⟩
    · exact Or.inl (congrArg (p :: ·) hsame)
    · exact Or.inr ⟨r, List.mem_cons_of_mem _ hr, hvalue⟩
  | case3 t hshort => exact Or.inl (joinHalves_of_short hshort).1

theorem joinHalves_ne_id {name : Text} (h : name ≠ "id") : joinHalves name ≠ "id" := by
  intro heq
  rcases joinHalves_eq_or name with hsame | ⟨p, hp, hvalue⟩
  · exact h (hsame.symm.trans heq)
  · rw [heq] at hp
    have hsmall : ∀ p ∈ ofString "id", p.value < 0x10000 := by decide
    have := hsmall p hp
    omega

/-- A value without pairs of halves. -/
def Value.IsPairFree : Value → Prop
  | .text t => Json.IsPairFree t
  | _ => True

instance (value : Value) : Decidable value.IsPairFree :=
  match value with
  | .text t => inferInstanceAs (Decidable (Json.IsPairFree t))
  | .null | .bool _ | .int _ | .float _ => isTrue trivial

theorem Value.reread_isPairFree (value : Value) : value.reread.IsPairFree := by
  cases value with
  | text t => exact joinHalves_isPairFree t
  | _ => trivial

theorem Value.reread_eq_self {value : Value} (h : value.IsPairFree) : value.reread = value := by
  cases value with
  | text t => exact congrArg Value.text (joinHalves_eq_self_iff.2 h)
  | _ => rfl

theorem Json.rereadFields_eq_insertAll (before fields : List (Text × Json)) :
    rereadFields before fields =
      Fields.insertAll before (fields.map fun field => (joinHalves field.1, field.2.reread)) := by
  induction fields generalizing before with
  | nil => rfl
  | cons field fields ih => exact ih _

/-! ### Rows -/

/-- A row that a data file can hold. -/
structure Row.IsStorable (row : Row) : Prop where
  id_ne_nil : row.id ≠ []
  values : ∀ field ∈ row.values.fields, field.2.IsStorable

/-- A row that comes back from a data file as it is. -/
structure Row.IsFaithful (row : Row) : Prop where
  no_id : ofString "id" ∉ row.values.names
  id : Json.IsPairFree row.id
  fields : ∀ field ∈ row.values.fields, Json.IsPairFree field.1 ∧ field.2.IsPairFree

instance (row : Row) : Decidable row.IsFaithful :=
  decidable_of_iff (ofString "id" ∉ row.values.names ∧ Json.IsPairFree row.id ∧
      ∀ field ∈ row.values.fields, Json.IsPairFree field.1 ∧ field.2.IsPairFree)
    ⟨fun ⟨hno, hid, hfields⟩ => ⟨hno, hid, hfields⟩, fun h => ⟨h.no_id, h.id, h.fields⟩⟩

/-- A row as it is read back, if no field replaces its identifier. -/
def Row.reread (row : Row) : Row :=
  ⟨joinHalves row.id, rowValues row.toJson.reread⟩

/-- The fields of a row as documents, after its identifier. -/
def Row.documents (row : Row) : List (Text × Json) :=
  row.values.fields.map fun field => (field.1, .scalar field.2)

theorem Row.toJson_eq (row : Row) :
    row.toJson =
      .object (Fields.insertAll [(ofString "id", .scalar (.text row.id))] row.documents) := by
  rw [Row.toJson, Fields.insertAll, Row.documents, List.foldl_map]

theorem Row.names_documents (row : Row) : Fields.names row.documents = row.values.names := by
  simp [Row.documents, Record.names]

theorem Row.ne_id_of_mem_documents {row : Row} (h : ofString "id" ∉ row.values.names)
    {field : Text × Json} (hfield : field ∈ row.documents) : field.1 ≠ "id" := by
  intro heq
  rw [← Row.names_documents, ← heq] at h
  exact h (List.mem_map_of_mem hfield)

theorem Row.nodup_documents {row : Row} (h : ofString "id" ∉ row.values.names) :
    (Fields.names ((ofString "id", Json.scalar (.text row.id)) :: row.documents)).Nodup := by
  show (ofString "id" :: Fields.names row.documents).Nodup
  rw [Row.names_documents]
  exact List.nodup_cons.2 ⟨h, row.values.nodup⟩

theorem Row.toJson_of_no_id {row : Row} (h : ofString "id" ∉ row.values.names) :
    row.toJson = .object ((ofString "id", .scalar (.text row.id)) :: row.documents) := by
  rw [Row.toJson_eq]
  exact congrArg Json.object (Fields.insertAll_eq_append (Row.nodup_documents h))

/-- No field of a row that is read is called `id`. -/
theorem rowValues_no_id (json : Json) : ofString "id" ∉ (rowValues json).names := by
  intro hmem
  obtain ⟨field, hfield, hname⟩ := List.mem_map.1 hmem
  obtain ⟨source, hsource, rfl⟩ := List.mem_map.1 (Record.mem_ofList hfield)
  exact bne_iff_ne.1 (List.mem_filter.1 hsource).2 hname

theorem Row.givenId?_reread {row : Row} (hstorable : row.IsStorable)
    (h : ofString "id" ∉ row.values.names) :
    givenId? row.toJson.reread = some (joinHalves row.id) := by
  have hother : ofString "id" ∉ Fields.names
      (row.documents.map fun field => (joinHalves field.1, field.2.reread)) := by
    intro hmem
    obtain ⟨_, hfield, hname⟩ := List.mem_map.1 hmem
    obtain ⟨field, hdocument, rfl⟩ := List.mem_map.1 hfield
    exact joinHalves_ne_id (Row.ne_id_of_mem_documents h hdocument) hname
  have hlookup : row.toJson.reread.get? "id" = some (.scalar (.text (joinHalves row.id))) := by
    rw [Row.toJson_of_no_id h, Json.reread, rereadFields, Json.rereadFields_eq_insertAll]
    exact Fields.lookup_insertAll_of_not_mem hother
  have htruthy : Json.isTruthy (.scalar (.text (joinHalves row.id))) = true := by
    simpa [Json.isTruthy, Value.isTruthy] using joinHalves_ne_nil hstorable.id_ne_nil
  rw [givenId?, hlookup, Option.filter_some, if_pos htruthy]
  rfl

/-- Whatever is read back is without pairs. -/
theorem Row.fields_reread_isPairFree {row : Row} {field : Text × Value}
    (h : field ∈ row.reread.values.fields) : Json.IsPairFree field.1 ∧ field.2.IsPairFree := by
  obtain ⟨source, hsource, rfl⟩ := List.mem_map.1 (Record.mem_ofList h)
  have hfield := (List.mem_filter.1 hsource).1
  rw [Row.toJson_eq, Json.reread, Json.rereadFields_eq_insertAll] at hfield
  rcases Fields.mem_insertAll hfield with hnone | hmem
  · simp at hnone
  obtain ⟨document, hdocument, rfl⟩ := List.mem_map.1 hmem
  -- the values of a row are scalars in the file
  have hscalar : ∃ value, document.2 = .scalar value := by
    rcases Fields.mem_insertAll hdocument with hid | hvalue
    · exact ⟨_, congrArg Prod.snd (List.mem_singleton.1 hid)⟩
    · obtain ⟨origin, -, rfl⟩ := List.mem_map.1 hvalue
      exact ⟨_, rfl⟩
  obtain ⟨value, hvalue⟩ := hscalar
  refine ⟨joinHalves_isPairFree _, ?_⟩
  show (Json.value document.2.reread).IsPairFree
  rw [hvalue, Json.reread]
  exact value.reread_isPairFree

theorem Row.IsFaithful.reread_eq {row : Row} (h : row.IsFaithful) : row.reread = row := by
  have hdocuments : (row.documents.map fun field => (joinHalves field.1, field.2.reread)) =
      row.documents := by
    unfold Row.documents
    rw [List.map_map]
    refine List.map_congr_left fun field hfield => ?_
    obtain ⟨hname, hvalue⟩ := h.fields field hfield
    simp [joinHalves_eq_self_iff.2 hname, Json.reread, Value.reread_eq_self hvalue]
  have hid := joinHalves_eq_self_iff.2 h.id
  have hreread : row.toJson.reread =
      .object ((ofString "id", .scalar (.text row.id)) :: row.documents) := by
    rw [Row.toJson_of_no_id h.no_id, Json.reread, Json.rereadFields_eq_insertAll, List.map_cons,
      hdocuments, Json.reread, Value.reread, hid]
    exact congrArg Json.object (Fields.insertAll_eq_append (Row.nodup_documents h.no_id))
  have hkept : row.documents.filter (fun field => field.1 != ofString "id") = row.documents := by
    refine List.filter_eq_self.2 fun field hfield => bne_iff_ne.2 ?_
    exact Row.ne_id_of_mem_documents h.no_id hfield
  -- the identifier is taken out again, and the documents are the values
  have hvalues : rowValues row.toJson.reread = row.values := by
    rw [hreread]
    show Record.ofList
      (((_ :: row.documents).filter fun field => field.1 != ofString "id").map _) = _
    rw [List.filter_cons_of_neg (by simp), hkept, Row.documents, List.map_map]
    refine Eq.trans ?_ row.values.ofList_fields
    congr 1
    exact List.map_id _
  rw [Row.reread, hvalues, hid]

/-- Just the faithful rows are read back as they are. -/
theorem Row.reread_eq_self_iff {row : Row} : row.reread = row ↔ row.IsFaithful := by
  refine ⟨fun h => ⟨?_, ?_, ?_⟩, Row.IsFaithful.reread_eq⟩
  · rw [← h]
    exact rowValues_no_id _
  · exact joinHalves_eq_self_iff.1 (congrArg Row.id h)
  · intro field hfield
    rw [← h] at hfield
    exact Row.fields_reread_isPairFree hfield

theorem rowsOfJson_reread {rows : List Row} (hstorable : ∀ row ∈ rows, row.IsStorable)
    (hno : ∀ row ∈ rows, ofString "id" ∉ row.values.names) (ids : IdSupply) :
    rowsOfJson (rows.map fun row => row.toJson.reread) ids = (rows.map Row.reread, ids) := by
  induction rows with
  | nil => rfl
  | cons row rows ih =>
    have hrow : Row.ofJson row.toJson.reread ids = (row.reread, ids) := by
      rw [Row.ofJson, Row.givenId?_reread (hstorable row List.mem_cons_self)
        (hno row List.mem_cons_self)]
      rfl
    have hrest := ih (fun r hr => hstorable r (List.mem_cons_of_mem _ hr))
      fun r hr => hno r (List.mem_cons_of_mem _ hr)
    rw [List.map_cons, rowsOfJson, hrow]
    simp only [hrest, List.map_cons]

/-! ### Tables -/

/-- A table that a data file can hold: its name is a text, and it can hold the rows. -/
structure Table.IsStorable (table : Table) : Prop where
  name : ∃ name, table.name = .scalar (.text name)
  rows : ∀ row ∈ table.rows, row.IsStorable

/-- A table that comes back from a data file as it is. -/
structure Table.IsFaithful (table : Table) : Prop where
  id : Json.IsPairFree table.id
  name : table.name.value.IsPairFree
  columns : ∀ column ∈ table.columns, Json.IsPairFree column
  rows : ∀ row ∈ table.rows, row.IsFaithful

instance (table : Table) : Decidable table.IsFaithful :=
  decidable_of_iff (Json.IsPairFree table.id ∧ table.name.value.IsPairFree ∧
      (∀ column ∈ table.columns, Json.IsPairFree column) ∧ ∀ row ∈ table.rows, row.IsFaithful)
    ⟨fun ⟨hid, hname, hcolumns, hrows⟩ => ⟨hid, hname, hcolumns, hrows⟩,
      fun h => ⟨h.id, h.name, h.columns, h.rows⟩⟩

/-- A table as it is read back, if no field replaces the identifier of a row. -/
def Table.reread (table : Table) : Table :=
  ⟨joinHalves table.id, table.name.reread, table.columns.map joinHalves, table.rows.map Row.reread⟩

theorem Table.toJson_reread (table : Table) :
    table.toJson.reread = .object [("id", .scalar (.text (joinHalves table.id))),
      ("name", table.name.reread),
      ("columns", .array (table.columns.map fun column => .scalar (.text (joinHalves column)))),
      ("data", .array (table.rows.map fun row => row.toJson.reread))] := by
  have hcolumns : Json.reread (.array (table.columns.map fun column => .scalar (.text column))) =
      .array (table.columns.map fun column => .scalar (.text (joinHalves column))) := by
    rw [Json.reread, rereadItems_eq_map, List.map_map]
    rfl
  have hdata : Json.reread (.array (table.rows.map Row.toJson)) =
      .array (table.rows.map fun row => row.toJson.reread) := by
    rw [Json.reread, rereadItems_eq_map, List.map_map]
    rfl
  rw [Table.toJson, Json.reread]
  simp only [rereadFields, hcolumns, hdata]
  rfl

theorem Table.rowItems_reread (table : Table) :
    rowItems table.toJson.reread = table.rows.map fun row => row.toJson.reread := by
  rw [Table.toJson_reread]
  rfl

theorem map_eq_self_iff {α : Type} {f : α → α} {items : List α} :
    items.map f = items ↔ ∀ item ∈ items, f item = item := by
  have h := List.map_inj_left (f := f) (g := id) (l := items)
  rwa [List.map_id] at h

/-- Just the faithful tables are read back as they are. -/
theorem Table.reread_eq_self_iff {table : Table} (hstorable : table.IsStorable) :
    table.reread = table ↔ table.IsFaithful := by
  obtain ⟨id, name, columns, rows⟩ := table
  obtain ⟨⟨name, rfl⟩, -⟩ := hstorable
  simp only [Table.reread, Table.mk.injEq, map_eq_self_iff, joinHalves_eq_self_iff,
    Row.reread_eq_self_iff, Json.reread, Value.reread, Json.scalar.injEq, Value.text.injEq]
  constructor
  · rintro ⟨hid, hname, hcolumns, hrows⟩
    exact ⟨hid, hname, hcolumns, hrows⟩
  · intro h
    exact ⟨h.id, h.name, h.columns, h.rows⟩

theorem Table.ofJson_reread {table : Table} (hstorable : table.IsStorable)
    (hno : ∀ row ∈ table.rows, ofString "id" ∉ row.values.names) (ids : IdSupply) :
    Table.ofJson table.toJson.reread ids = (.ok table.reread, ids) := by
  have hcolumns : ((table.toJson.reread.get? "columns").map Json.texts).getD [] =
      table.columns.map joinHalves := by
    rw [Table.toJson_reread]
    show ((table.columns.map fun column => _).map Json.spelling) = _
    rw [List.map_map]
    rfl
  have hid : table.toJson.reread.get? "id" = some (.scalar (.text (joinHalves table.id))) := by
    rw [Table.toJson_reread]
    rfl
  have hname : table.toJson.reread.get? "name" = some table.name.reread := by
    rw [Table.toJson_reread]
    rfl
  rw [Table.ofJson, hid, hname]
  simp only [table.rowItems_reread, hcolumns, rowsOfJson_reread hstorable.rows hno]
  rfl

/-! ### Data files -/

section Files

variable {tables : List Table}

theorem tablesOfJson_reread (hstorable : ∀ table ∈ tables, table.IsStorable)
    (hno : ∀ table ∈ tables, ∀ row ∈ table.rows, ofString "id" ∉ row.values.names)
    (ids : IdSupply) :
    tablesOfJson (tables.map fun table => table.toJson.reread) ids =
      (.ok (tables.map Table.reread), ids) := by
  induction tables with
  | nil => rfl
  | cons table tables ih =>
    have hrest := ih (fun t ht => hstorable t (List.mem_cons_of_mem _ ht))
      fun t ht => hno t (List.mem_cons_of_mem _ ht)
    rw [List.map_cons, tablesOfJson, Table.ofJson_reread (hstorable table List.mem_cons_self)
      (hno table List.mem_cons_self)]
    simp only [hrest]
    rfl

theorem lacksIds_reread (hstorable : ∀ table ∈ tables, table.IsStorable)
    (hno : ∀ table ∈ tables, ∀ row ∈ table.rows, ofString "id" ∉ row.values.names) :
    lacksIds (tables.map fun table => table.toJson.reread) = false := by
  simp only [lacksIds, List.any_eq_false, Bool.not_eq_true, List.mem_map]
  rintro _ ⟨table, htable, rfl⟩
  rw [table.rowItems_reread]
  intro json hjson
  obtain ⟨row, hrow, rfl⟩ := List.mem_map.1 hjson
  rw [Row.givenId?_reread ((hstorable table htable).rows row hrow) (hno table htable row hrow)]
  simp

theorem toJson_isStorable (hstorable : ∀ table ∈ tables, table.IsStorable) :
    Json.IsStorable maxNesting (.array (tables.map Table.toJson)) := by
  have hrow {row : Row} (h : row.IsStorable) (levels : Nat) :
      Json.IsStorable (levels + 1) row.toJson := by
    rw [Row.toJson_eq]
    refine .object fun field hfield => ?_
    rcases Fields.mem_insertAll hfield with hid | hvalue
    · obtain rfl := List.mem_singleton.1 hid
      exact .scalar trivial
    · obtain ⟨source, hsource, rfl⟩ := List.mem_map.1 hvalue
      exact .scalar (h.values source hsource)
  refine .array fun json hjson => ?_
  obtain ⟨table, htable, rfl⟩ := List.mem_map.1 hjson
  obtain ⟨name, hname⟩ := (hstorable table htable).name
  refine .object fun field hfield => ?_
  simp only [List.mem_cons, List.not_mem_nil, or_false] at hfield
  rcases hfield with rfl | rfl | rfl | rfl
  · exact .scalar trivial
  · simp only [hname]
    exact .scalar trivial
  · refine .array fun item hitem => ?_
    obtain ⟨column, -, rfl⟩ := List.mem_map.1 hitem
    exact .scalar trivial
  · refine .array fun item hitem => ?_
    obtain ⟨row, hmem, rfl⟩ := List.mem_map.1 hitem
    exact hrow ((hstorable table htable).rows row hmem) _

/-- What is loaded from the data file of some tables. -/
theorem contentsOfText_tablesToText (hstorable : ∀ table ∈ tables, table.IsStorable)
    (ids : IdSupply) :
    contentsOfText (tablesToText tables) ids =
      ((tablesOfJson (tables.map fun table => table.toJson.reread) ids).1.map fun later =>
        ⟨later, lacksIds (tables.map fun table => table.toJson.reread)⟩,
      (tablesOfJson (tables.map fun table => table.toJson.reread) ids).2) := by
  have hread := read_write (toJson_isStorable hstorable)
  have hitems : (Json.reread (.array (tables.map Table.toJson))).items =
      tables.map fun table => table.toJson.reread := by
    rw [Json.reread, rereadItems_eq_map, List.map_map]
    rfl
  rw [contentsOfText, tablesToText, hread]
  simp only [hitems]

/-- Without fields called `id`, the tables come back with their pairs joined. -/
theorem contentsOfText_of_no_id (hstorable : ∀ table ∈ tables, table.IsStorable)
    (hno : ∀ table ∈ tables, ∀ row ∈ table.rows, ofString "id" ∉ row.values.names)
    (ids : IdSupply) :
    contentsOfText (tablesToText tables) ids = (.ok ⟨tables.map Table.reread, false⟩, ids) := by
  rw [contentsOfText_tablesToText hstorable, tablesOfJson_reread hstorable hno,
    lacksIds_reread hstorable hno]
  rfl

/-- Faithful tables come back as they are. -/
theorem contentsOfText_of_isFaithful (hstorable : ∀ table ∈ tables, table.IsStorable)
    (hfaithful : ∀ table ∈ tables, table.IsFaithful) (ids : IdSupply) :
    contentsOfText (tablesToText tables) ids = (.ok ⟨tables, false⟩, ids) := by
  have hsame : tables.map Table.reread = tables :=
    map_eq_self_iff.2 fun table htable =>
      (Table.reread_eq_self_iff (hstorable table htable)).2 (hfaithful table htable)
  rw [contentsOfText_of_no_id hstorable (fun table htable row hrow =>
    ((hfaithful table htable).rows row hrow).no_id), hsame]

end Files

theorem rowsOfJson_no_id (json : List Json) (ids : IdSupply) :
    ∀ row ∈ (rowsOfJson json ids).1, ofString "id" ∉ row.values.names := by
  induction json generalizing ids with
  | nil => simp [rowsOfJson]
  | cons first rest ih =>
    have hfirst : ofString "id" ∉ (Row.ofJson first ids).1.values.names := by
      unfold Row.ofJson
      split <;> exact rowValues_no_id first
    intro row hrow
    rcases List.mem_cons.1 hrow with rfl | hmem
    · exact hfirst
    · exact ih _ row hmem

theorem Table.rows_of_ofJson {json : Json} {ids left : IdSupply} {table : Table}
    (h : Table.ofJson json ids = (.ok table, left)) :
    table.rows = (rowsOfJson (rowItems json) ids).1 := by
  unfold Table.ofJson at h
  split at h
  · simp at h
  · simp at h
  · obtain rfl := Except.ok.inj (Prod.mk.inj h).1
    rfl

/-- No row of a table that is loaded has a field called `id`. -/
theorem tablesOfJson_no_id {json : List Json} {ids : IdSupply} {tables : List Table}
    (h : (tablesOfJson json ids).1 = .ok tables) :
    ∀ table ∈ tables, ∀ row ∈ table.rows, ofString "id" ∉ row.values.names := by
  induction json generalizing ids tables with
  | nil =>
    obtain rfl : [] = tables := by simpa [tablesOfJson] using h
    simp
  | cons first rest ih =>
    unfold tablesOfJson at h
    cases hfirst : Table.ofJson first ids with
    | mk answer next =>
      cases answer with
      | error fault => simp [hfirst] at h
      | ok table =>
        simp only [hfirst] at h
        obtain ⟨later, hlater, rfl⟩ := map_eq_ok.1 h
        intro other hother
        rcases List.mem_cons.1 hother with rfl | hmem
        · rw [Table.rows_of_ofJson hfirst]
          exact rowsOfJson_no_id _ _
        · exact ih hlater other hmem

/-- The data file of some tables gives just these tables if and only if all of them are
faithful. -/
theorem contentsOfText_eq_iff {tables : List Table}
    (hstorable : ∀ table ∈ tables, table.IsStorable) (ids : IdSupply) :
    (contentsOfText (tablesToText tables) ids).1.map Contents.tables = .ok tables ↔
      ∀ table ∈ tables, table.IsFaithful := by
  constructor
  · intro h
    -- no row that is loaded has such a field, so these have none
    have hno : ∀ table ∈ tables, ∀ row ∈ table.rows, ofString "id" ∉ row.values.names := by
      rw [contentsOfText_tablesToText hstorable] at h
      obtain ⟨contents, hcontents, hsame⟩ := map_eq_ok.1 h
      obtain ⟨later, hlater, rfl⟩ := map_eq_ok.1 hcontents
      obtain rfl : later = tables := hsame
      exact tablesOfJson_no_id hlater
    rw [contentsOfText_of_no_id hstorable hno] at h
    have hsame : tables.map Table.reread = tables := Except.ok.inj h
    exact fun table htable =>
      (Table.reread_eq_self_iff (hstorable table htable)).1 (map_eq_self_iff.1 hsame table htable)
  · intro h
    rw [contentsOfText_of_isFaithful hstorable h]
    rfl

end TableQuery
