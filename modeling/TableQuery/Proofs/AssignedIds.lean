import TableQuery.Proofs.ReadDocuments
import TableQuery.Proofs.SavedStores
import TableQuery.Proofs.Spelling

/-!
# Identifiers are assigned once

The rows of a data file that give no identifier take one when the file is loaded, and the file is
written again. After that nothing changes any more.

* `Json.IsTable`, `Json.IsRow`: the well-shaped documents of a data file.
* `IdSupply.IsUsable`: supplies whose identifiers come back from a data file.
* `Row.ReadFrom`, `Table.ReadFrom`: rows and tables that are read, with the identifiers given.
* `tablesOfJson_readFrom`: a well-shaped file is read as such tables.
* `tablesOfJson_of_lacksIds_eq_false`: no identifier is taken if all are given.
* `Store.Keeps`, `Store.load_keeps`: once it is loaded, a file keeps its tables.
* `Store.load_load`: a second load changes nothing.
* `Store.assigns_ids_once`: nor does any later one.
-/

namespace TableQuery

open Number Text

/-! ### Well-shaped documents -/

namespace Json

/-- A document that is neither an array nor an object. -/
def IsScalar : Json → Prop
  | .scalar _ => True
  | _ => False

/-- A document that is a text. -/
def IsText : Json → Prop
  | .scalar (.text _) => True
  | _ => False

/-- An array whose items are all of one kind. -/
def IsArrayOf (P : Json → Prop) : Json → Prop
  | .array items => ∀ item ∈ items, P item
  | _ => False

/-- An object whose fields are all scalars, the identifier among them, if there is one. -/
def IsRow : Json → Prop
  | .object fields => ∀ field ∈ fields, field.2.IsScalar
  | _ => False

/-- An object with an identifier and a name. Its columns and its rows can be missing, and there can
be further fields. -/
structure IsTable (table : Json) : Prop where
  id : ∃ id ∈ table.get? "id", id.IsScalar
  name : ∃ name ∈ table.get? "name", name.IsText
  columns : ∀ columns ∈ table.get? "columns", columns.IsArrayOf IsText
  data : ∀ data ∈ table.get? "data", data.IsArrayOf IsRow

instance (json : Json) : Decidable json.IsScalar :=
  match json with
  | .scalar _ => isTrue trivial
  | .array _ | .object _ => isFalse id

instance (json : Json) : Decidable json.IsText :=
  match json with
  | .scalar (.text _) => isTrue trivial
  | .scalar .null | .scalar (.bool _) | .scalar (.int _) | .scalar (.float _) => isFalse id
  | .array _ | .object _ => isFalse id

instance (P : Json → Prop) [DecidablePred P] (json : Json) : Decidable (json.IsArrayOf P) :=
  match json with
  | .array items => inferInstanceAs (Decidable (∀ item ∈ items, P item))
  | .scalar _ | .object _ => isFalse id

instance (json : Json) : Decidable json.IsRow :=
  match json with
  | .object fields => inferInstanceAs (Decidable (∀ field ∈ fields, field.2.IsScalar))
  | .scalar _ | .array _ => isFalse id

instance (table : Json) : Decidable table.IsTable :=
  decidable_of_iff
    ((∃ id ∈ table.get? "id", id.IsScalar) ∧ (∃ name ∈ table.get? "name", name.IsText) ∧
      (∀ columns ∈ table.get? "columns", columns.IsArrayOf IsText) ∧
      ∀ data ∈ table.get? "data", data.IsArrayOf IsRow)
    ⟨fun h => ⟨h.1, h.2.1, h.2.2.1, h.2.2.2⟩, fun h => ⟨h.id, h.name, h.columns, h.data⟩⟩

theorem isScalar_iff {json : Json} : json.IsScalar ↔ ∃ value, json = .scalar value := by
  cases json <;> simp [IsScalar]

theorem isText_iff {json : Json} : json.IsText ↔ ∃ t, json = .scalar (.text t) := by
  cases json with
  | scalar value => cases value <;> simp [IsText]
  | array | object => simp [IsText]

theorem isArrayOf_iff {P : Json → Prop} {json : Json} :
    json.IsArrayOf P ↔ ∃ items, json = .array items ∧ ∀ item ∈ items, P item := by
  cases json <;> simp [IsArrayOf]

theorem isRow_iff {json : Json} :
    json.IsRow ↔ ∃ fields, json = .object fields ∧ ∀ field ∈ fields, field.2.IsScalar := by
  cases json <;> simp [IsRow]

theorem IsSettled.item {items : List Json} (h : IsSettled (.array items)) {item : Json}
    (hitem : item ∈ items) : item.IsSettled := by
  cases h with
  | array hitems => exact hitems item hitem

theorem IsSettled.get? {json value : Json} (h : json.IsSettled) {name : Text}
    (hvalue : json.get? name = some value) : value.IsSettled := by
  cases json with
  | scalar | array => simp [Json.get?] at hvalue
  | object fields => exact (isSettled_object_iff.1 h _ (Fields.mem_of_lookup hvalue)).2

end Json

theorem forall_mem_of_forall₂ {α β : Type} {R : α → β → Prop} {P : β → Prop}
    (himp : ∀ a b, R a b → P b) {as : List α} {bs : List β} (h : List.Forall₂ R as bs) :
    ∀ b ∈ bs, P b := by
  induction h with
  | nil => exact List.forall_mem_nil P
  | cons hfirst _ ih => exact List.forall_mem_cons.2 ⟨himp _ _ hfirst, ih⟩

/-! ### Rows -/

/-- Any identifier of the supply can be saved and comes back as it is. -/
def IdSupply.IsUsable (ids : IdSupply) : Prop :=
  ∀ n, ids.name n ≠ [] ∧ Json.IsPairFree (ids.name n)

theorem IdSupply.IsUsable.of_name_eq {ids left : IdSupply} (h : ids.IsUsable)
    (hname : left.name = ids.name) : left.IsUsable := by
  unfold IsUsable
  rwa [hname]

theorem uuidText_plain (n : Nat) : ∀ p ∈ uuidText n, IsPlain p := by
  have hgroup (start length : Nat) : ∀ p ∈ ((hex 32 n).drop start).take length, IsPlain p :=
    fun p hp => Json.hex_plain 32 n p (List.mem_of_mem_drop (List.mem_of_mem_take hp))
  have happend (a b : Text) (ha : ∀ p ∈ a, IsPlain p) (hb : ∀ p ∈ b, IsPlain p) :
      ∀ p ∈ a ++ b, IsPlain p := List.forall_mem_append.2 ⟨ha, hb⟩
  unfold uuidText
  refine joinWith_induction (List.forall_mem_nil IsPlain) happend (by decide) ?_
  simp only [List.forall_mem_cons]
  exact ⟨hgroup _ _, hgroup _ _, hgroup _ _, hgroup _ _, hgroup _ _, List.forall_mem_nil _⟩

theorem uuids_isUsable : (IdSupply.ofSequence uuidText).IsUsable := by
  intro n
  refine ⟨Store.uuids_ne_nil n, ?_⟩
  simp only [IdSupply.ofSequence]
  exact isPairFree_of_plain (uuidText_plain n)

/-- A row has the identifier that its object gives, unless this is empty, zero, false or null. -/
def Row.KeepsId (json : Json) (row : Row) : Prop :=
  ∀ id : Value, json.get? "id" = some (.scalar id) → id.isTruthy = true → row.id = id.spelling

/-- The row of an object, ready to be saved. -/
structure Row.ReadFrom (json : Json) (row : Row) : Prop where
  storable : row.IsStorable
  faithful : row.IsFaithful
  keepsId : row.KeepsId json

section Rows

variable {json : Json}

theorem givenId?_eq_some {t : Text} (hrow : json.IsRow) (h : givenId? json = some t) :
    ∃ id : Value, json.get? "id" = some (.scalar id) ∧ id.isTruthy = true ∧ id.spelling = t := by
  obtain ⟨fields, rfl, hfields⟩ := Json.isRow_iff.1 hrow
  obtain ⟨document, hdocument, rfl⟩ := Option.map_eq_some_iff.1 h
  obtain ⟨hget, htruthy⟩ := Option.filter_eq_some_iff.1 hdocument
  obtain ⟨id, rfl⟩ := Json.isScalar_iff.1 (hfields _ (Fields.mem_of_lookup hget))
  exact ⟨id, hget, htruthy, rfl⟩

theorem givenId?_of_isTruthy {id : Value} (h : json.get? "id" = some (.scalar id))
    (hid : id.isTruthy = true) : givenId? json = some id.spelling := by
  have hjson : (Json.scalar id).isTruthy = true := hid
  rw [givenId?, h, Option.filter_some, if_pos hjson]
  rfl

theorem rowValues_isSettled (hrow : json.IsRow) (hsettled : json.IsSettled) {field : Text × Value}
    (hfield : field ∈ (rowValues json).fields) :
    Json.IsPairFree field.1 ∧ field.2.IsSettled := by
  obtain ⟨fields, rfl, hscalars⟩ := Json.isRow_iff.1 hrow
  obtain ⟨source, hsource, rfl⟩ := List.mem_map.1 (Record.mem_ofList hfield)
  have hmem := (List.mem_filter.1 hsource).1
  obtain ⟨hname, hvalue⟩ := Json.isSettled_object_iff.1 hsettled source hmem
  refine ⟨hname, ?_⟩
  obtain ⟨value, hscalar⟩ := Json.isScalar_iff.1 (hscalars source hmem)
  rw [hscalar] at hvalue
  show (Json.value source.2).IsSettled
  rw [hscalar]
  cases hvalue with
  | scalar hvalue => exact hvalue

theorem Row.ofJson_values (json : Json) (ids : IdSupply) :
    (Row.ofJson json ids).1.values = rowValues json := by
  unfold Row.ofJson
  split <;> rfl

theorem Row.ofJson_id (json : Json) (ids : IdSupply) :
    (Row.ofJson json ids).1.id = (givenId? json).getD ids.peek := by
  unfold Row.ofJson
  split <;> simp [*]

theorem Row.ofJson_name (json : Json) (ids : IdSupply) :
    (Row.ofJson json ids).2.name = ids.name := by
  unfold Row.ofJson
  split <;> rfl

theorem Row.ofJson_of_given {ids : IdSupply} (h : (givenId? json).isSome = true) :
    (Row.ofJson json ids).2 = ids := by
  obtain ⟨id, hid⟩ := Option.isSome_iff_exists.1 h
  rw [Row.ofJson, hid]

theorem Row.ofJson_readFrom (hrow : json.IsRow) (hsettled : json.IsSettled) {ids : IdSupply}
    (hids : ids.IsUsable) : Row.ReadFrom json (Row.ofJson json ids).1 := by
  have hvalues := Row.ofJson_values json ids
  have hid : (Row.ofJson json ids).1.id ≠ [] ∧ Json.IsPairFree (Row.ofJson json ids).1.id := by
    rw [Row.ofJson_id]
    cases hgiven : givenId? json with
    | none => exact hids _
    | some t =>
      obtain ⟨id, hget, htruthy, rfl⟩ := givenId?_eq_some hrow hgiven
      cases hsettled.get? hget with
      | scalar hvalue => exact ⟨Value.spelling_ne_nil htruthy, hvalue.spelling⟩
  refine ⟨⟨hid.1, ?_⟩, ⟨?_, hid.2, ?_⟩, ?_⟩
  · intro field hfield
    rw [hvalues] at hfield
    exact (rowValues_isSettled hrow hsettled hfield).2.storable
  · rw [hvalues]
    exact rowValues_no_id json
  · intro field hfield
    rw [hvalues] at hfield
    obtain ⟨hname, hvalue⟩ := rowValues_isSettled hrow hsettled hfield
    exact ⟨hname, hvalue.pairFree⟩
  · intro id hget htruthy
    rw [Row.ofJson_id, givenId?_of_isTruthy hget htruthy]
    rfl

end Rows

theorem rowsOfJson_cons (json : Json) (more : List Json) (ids : IdSupply) :
    rowsOfJson (json :: more) ids =
      ((Row.ofJson json ids).1 :: (rowsOfJson more (Row.ofJson json ids).2).1,
        (rowsOfJson more (Row.ofJson json ids).2).2) := rfl

theorem rowsOfJson_readFrom {items : List Json} (hrows : ∀ row ∈ items, row.IsRow)
    (hsettled : ∀ row ∈ items, row.IsSettled) {ids : IdSupply} (hids : ids.IsUsable) :
    List.Forall₂ Row.ReadFrom items (rowsOfJson items ids).1 ∧
      (rowsOfJson items ids).2.name = ids.name := by
  induction items generalizing ids with
  | nil => exact ⟨.nil, rfl⟩
  | cons json more ih =>
    obtain ⟨hrow, hrows⟩ := List.forall_mem_cons.1 hrows
    obtain ⟨hfirst, hsettled⟩ := List.forall_mem_cons.1 hsettled
    have hname := Row.ofJson_name json ids
    obtain ⟨hmore, hleft⟩ := ih hrows hsettled (hids.of_name_eq hname)
    rw [rowsOfJson_cons]
    exact ⟨.cons (Row.ofJson_readFrom hrow hfirst hids) hmore, hleft.trans hname⟩

theorem rowsOfJson_of_given {items : List Json} (h : ∀ row ∈ items, (givenId? row).isSome = true)
    (ids : IdSupply) : (rowsOfJson items ids).2 = ids := by
  induction items generalizing ids with
  | nil => rfl
  | cons json more ih =>
    obtain ⟨hfirst, hmore⟩ := List.forall_mem_cons.1 h
    rw [rowsOfJson_cons, Row.ofJson_of_given hfirst]
    exact ih hmore ids

/-! ### Tables -/

/-- The table of an object, ready to be saved. -/
structure Table.ReadFrom (json : Json) (table : Table) : Prop where
  storable : table.IsStorable
  faithful : table.IsFaithful
  keepsIds : List.Forall₂ Row.KeepsId (rowItems json) table.rows

section Tables

variable {json : Json}

theorem Json.IsTable.rowItems (h : json.IsTable) (hsettled : json.IsSettled) :
    ∀ row ∈ rowItems json, row.IsRow ∧ row.IsSettled := by
  intro row hrow
  unfold TableQuery.rowItems at hrow
  cases hdata : json.get? "data" with
  | none => simp [hdata] at hrow
  | some data =>
    obtain ⟨items, rfl, hitems⟩ := Json.isArrayOf_iff.1 (h.data data hdata)
    rw [hdata] at hrow
    exact ⟨hitems row hrow, (hsettled.get? hdata).item hrow⟩

theorem Json.IsTable.columnTexts (h : json.IsTable) (hsettled : json.IsSettled) :
    ∀ column ∈ ((json.get? "columns").map Json.texts).getD [], Json.IsPairFree column := by
  intro column hcolumn
  cases hcolumns : json.get? "columns" with
  | none => simp [hcolumns] at hcolumn
  | some columns =>
    obtain ⟨items, rfl, hitems⟩ := Json.isArrayOf_iff.1 (h.columns columns hcolumns)
    rw [hcolumns] at hcolumn
    obtain ⟨item, hitem, rfl⟩ := List.mem_map.1 hcolumn
    obtain ⟨t, rfl⟩ := Json.isText_iff.1 (hitems item hitem)
    cases (hsettled.get? hcolumns).item hitem with
    | scalar hvalue => exact hvalue.pairFree

theorem Table.ofJson_readFrom (h : json.IsTable) (hsettled : json.IsSettled) {ids : IdSupply}
    (hids : ids.IsUsable) :
    ∃ table, (Table.ofJson json ids).1 = .ok table ∧ Table.ReadFrom json table ∧
      (Table.ofJson json ids).2.name = ids.name := by
  obtain ⟨id, hid, hscalar⟩ := h.id
  obtain ⟨name, hname, htext⟩ := h.name
  obtain ⟨value, rfl⟩ := Json.isScalar_iff.1 hscalar
  obtain ⟨t, rfl⟩ := Json.isText_iff.1 htext
  have hitems := h.rowItems hsettled
  obtain ⟨hrows, hleft⟩ := rowsOfJson_readFrom (fun row hrow => (hitems row hrow).1)
    (fun row hrow => (hitems row hrow).2) hids
  have hstorable := forall_mem_of_forall₂ (fun _ _ hread => hread.storable) hrows
  have hfaithful := forall_mem_of_forall₂ (fun _ _ hread => hread.faithful) hrows
  rw [Table.ofJson, Option.mem_def.1 hid, Option.mem_def.1 hname]
  refine ⟨_, rfl, ⟨⟨⟨t, rfl⟩, hstorable⟩, ⟨?_, ?_, ?_, hfaithful⟩, ?_⟩, hleft⟩
  · cases hsettled.get? hid with
    | scalar hvalue => exact hvalue.spelling
  · cases hsettled.get? hname with
    | scalar hvalue => exact hvalue.pairFree
  · exact h.columnTexts hsettled
  · exact hrows.imp fun _ _ hread => hread.keepsId

theorem Table.ofJson_of_given (h : ∀ row ∈ rowItems json, (givenId? row).isSome = true)
    (ids : IdSupply) : (Table.ofJson json ids).2 = ids := by
  unfold Table.ofJson
  split
  · rfl
  · rfl
  · exact rowsOfJson_of_given h ids

end Tables

theorem tablesOfJson_cons {json : Json} {more : List Json} {ids : IdSupply} {table : Table}
    (h : (Table.ofJson json ids).1 = .ok table) :
    tablesOfJson (json :: more) ids =
      ((tablesOfJson more (Table.ofJson json ids).2).1.map (table :: ·),
        (tablesOfJson more (Table.ofJson json ids).2).2) := by
  rw [tablesOfJson]
  split <;> simp_all

theorem tablesOfJson_cons_error {json : Json} {more : List Json} {ids : IdSupply} {fault : Fault}
    (h : (Table.ofJson json ids).1 = .error fault) :
    tablesOfJson (json :: more) ids = (.error fault, (Table.ofJson json ids).2) := by
  rw [tablesOfJson]
  split <;> simp_all

section Files

variable {items : List Json} {ids : IdSupply}

/-- A list of well-shaped tables is read without a failure. -/
theorem tablesOfJson_readFrom (htables : ∀ table ∈ items, table.IsTable)
    (hsettled : ∀ table ∈ items, table.IsSettled) (hids : ids.IsUsable) :
    ∃ tables, (tablesOfJson items ids).1 = .ok tables ∧
      List.Forall₂ Table.ReadFrom items tables := by
  induction items generalizing ids with
  | nil => exact ⟨[], rfl, .nil⟩
  | cons json more ih =>
    obtain ⟨htable, htables⟩ := List.forall_mem_cons.1 htables
    obtain ⟨hfirst, hsettled⟩ := List.forall_mem_cons.1 hsettled
    obtain ⟨table, hread, hready, hname⟩ := Table.ofJson_readFrom htable hfirst hids
    obtain ⟨tables, hmore, hothers⟩ := ih htables hsettled (hids.of_name_eq hname)
    refine ⟨table :: tables, ?_, .cons hready hothers⟩
    rw [tablesOfJson_cons hread, hmore]
    rfl

/-- Rows that all give their identifiers take none. -/
theorem tablesOfJson_of_lacksIds_eq_false (h : lacksIds items = false) (ids : IdSupply) :
    (tablesOfJson items ids).2 = ids := by
  induction items generalizing ids with
  | nil => rfl
  | cons json more ih =>
    obtain ⟨hfirst, hmore⟩ := Bool.or_eq_false_iff.1 h
    have hgiven : ∀ row ∈ rowItems json, (givenId? row).isSome = true := by
      intro row hrow
      rw [Option.isSome_iff_ne_none]
      simpa using List.any_eq_false.1 hfirst row hrow
    have hleft := Table.ofJson_of_given hgiven ids
    cases hread : (Table.ofJson json ids).1 with
    | error fault => rw [tablesOfJson_cons_error hread, hleft]
    | ok table =>
      rw [tablesOfJson_cons hread, hleft]
      exact ih hmore ids

theorem rowsOfJson_name (items : List Json) (ids : IdSupply) :
    (rowsOfJson items ids).2.name = ids.name := by
  induction items generalizing ids with
  | nil => rfl
  | cons json more ih => exact (ih _).trans (Row.ofJson_name json ids)

theorem Table.ofJson_name (json : Json) (ids : IdSupply) :
    (Table.ofJson json ids).2.name = ids.name := by
  unfold Table.ofJson
  split
  · rfl
  · rfl
  · exact rowsOfJson_name _ ids

theorem tablesOfJson_name (items : List Json) (ids : IdSupply) :
    (tablesOfJson items ids).2.name = ids.name := by
  induction items generalizing ids with
  | nil => rfl
  | cons json more ih =>
    have hname := Table.ofJson_name json ids
    cases hread : (Table.ofJson json ids).1 with
    | error fault => rw [tablesOfJson_cons_error hread, hname]
    | ok table =>
      rw [tablesOfJson_cons hread]
      exact (ih _).trans hname

end Files

/-! ### Documents that are written -/

theorem Row.isRow_reread (row : Row) : row.toJson.reread.IsRow := by
  rw [Row.toJson_eq, Json.reread, Json.rereadFields_eq_insertAll]
  intro field hfield
  rcases Fields.mem_insertAll hfield with hnone | hmem
  · simp at hnone
  obtain ⟨document, hdocument, rfl⟩ := List.mem_map.1 hmem
  rcases Fields.mem_insertAll hdocument with hid | hvalue
  · obtain rfl := List.mem_singleton.1 hid
    exact trivial
  · obtain ⟨origin, -, rfl⟩ := List.mem_map.1 hvalue
    exact trivial

theorem Table.isTable_reread {table : Table} (h : table.IsStorable) :
    table.toJson.reread.IsTable := by
  obtain ⟨name, hname⟩ := h.name
  rw [Table.toJson_reread, hname]
  refine ⟨⟨_, rfl, trivial⟩, ⟨_, rfl, trivial⟩, ?_, ?_⟩
  · rintro _ ⟨⟩
    intro item hitem
    obtain ⟨column, -, rfl⟩ := List.mem_map.1 hitem
    exact trivial
  · rintro _ ⟨⟩
    intro item hitem
    obtain ⟨row, -, rfl⟩ := List.mem_map.1 hitem
    exact row.isRow_reread

theorem read_tablesToText {tables : List Table} (h : ∀ table ∈ tables, table.IsStorable) :
    ∃ document, Json.read (unifyBreaks (tablesToText tables)) = .ok document ∧
      document.IsArrayOf Json.IsTable := by
  refine ⟨_, Json.read_write (toJson_isStorable h), ?_⟩
  rw [Json.reread, Json.rereadItems_eq_map, List.map_map]
  intro item hitem
  obtain ⟨table, htable, rfl⟩ := List.mem_map.1 hitem
  exact Table.isTable_reread (h table htable)

/-! ### Loading again and again -/

namespace Store

/-- The store after its tables were loaded a number of times. -/
def afterLoads : Nat → Store → Store
  | 0, store => store
  | n + 1, store => afterLoads n store.load.store

theorem afterLoads_of_load_eq {store : Store} (h : store.load.store = store) (n : Nat) :
    store.afterLoads n = store := by
  induction n with
  | zero => rfl
  | succ n ih => rw [afterLoads, h, ih]

/-- A store that gives certain tables when it is loaded, while nothing happens to it. In a data file
they are such as it gives back. -/
inductive Keeps : Store → List Table → Prop
  | memory (tables : List Table) (ids : IdSupply) : Keeps ⟨.memory tables, ids⟩ tables
  | file {path text : Text} {seeded : Bool} {ids : IdSupply} {tables : List Table}
      {document : Json} (read : Json.read (unifyBreaks text) = .ok document)
      (shape : document.IsArrayOf Json.IsTable)
      (load : (⟨.file path seeded (.content text), ids⟩ : Store).load =
        ⟨.ok tables, ⟨.file path seeded (.content text), ids⟩, []⟩)
      (usable : ids.IsUsable) (storable : ∀ table ∈ tables, table.IsStorable)
      (faithful : ∀ table ∈ tables, table.IsFaithful) :
      Keeps ⟨.file path seeded (.content text), ids⟩ tables

theorem Keeps.load_eq {store : Store} {tables : List Table} (h : store.Keeps tables) :
    store.load = ⟨.ok tables, store, []⟩ := by
  cases h with
  | memory => rfl
  | file _ _ load => exact load

/-- A file that was just written keeps its tables. -/
theorem keeps_saved (path : Text) (seeded : Bool) {ids : IdSupply} {tables : List Table}
    (husable : ids.IsUsable) (hstorable : ∀ table ∈ tables, table.IsStorable)
    (hfaithful : ∀ table ∈ tables, table.IsFaithful) :
    Keeps ⟨.file path seeded (.content (tablesToText tables)), ids⟩ tables := by
  obtain ⟨document, hread, hshape⟩ := read_tablesToText hstorable
  refine .file hread hshape ?_ husable hstorable hfaithful
  simp only [load, contentsOfText_of_isFaithful hstorable hfaithful]
  rfl

/-- The first load of a well-shaped file leaves a file that keeps its tables. -/
theorem load_keeps (path : Text) (seeded : Bool) {text : Text} {ids : IdSupply} {document : Json}
    (hread : Json.read (Text.unifyBreaks text) = .ok document)
    (hshape : document.IsArrayOf Json.IsTable) (hids : ids.IsUsable) :
    let store : Store := ⟨.file path seeded (.content text), ids⟩
    ∃ tables, store.load.answer = .ok tables ∧
      List.Forall₂ Table.ReadFrom document.items tables ∧ store.load.store.Keeps tables := by
  intro store
  obtain ⟨items, rfl, htables⟩ := Json.isArrayOf_iff.1 hshape
  have hsettled := Json.isSettled_of_read hread
  obtain ⟨tables, hanswer, hfrom⟩ :=
    tablesOfJson_readFrom htables (fun _ hitem => hsettled.item hitem) hids
  have hstorable := forall_mem_of_forall₂ (fun _ _ hread => hread.storable) hfrom
  have hfaithful := forall_mem_of_forall₂ (fun _ _ hread => hread.faithful) hfrom
  have hcontents : contentsOfText text ids =
      (.ok ⟨tables, lacksIds items⟩, (tablesOfJson items ids).2) := by
    simp only [contentsOfText, hread, Json.items, hanswer]
    rfl
  cases hlacks : lacksIds items with
  | true =>
    have hload : store.load = ⟨.ok tables,
        ⟨.file path seeded (.content (tablesToText tables)), (tablesOfJson items ids).2⟩,
        .logged (assignedEntry path) :: logged [savedEntry path tables.length]⟩ := by
      simp only [store, load, hcontents, hlacks]
      rfl
    have hleft := hids.of_name_eq (tablesOfJson_name items ids)
    refine ⟨tables, by rw [hload], hfrom, ?_⟩
    rw [hload]
    exact keeps_saved path seeded hleft hstorable hfaithful
  | false =>
    have hload : store.load = ⟨.ok tables, store, []⟩ := by
      rw [tablesOfJson_of_lacksIds_eq_false hlacks, hlacks] at hcontents
      simp only [store, load, hcontents]
      rfl
    refine ⟨tables, by rw [hload], hfrom, ?_⟩
    rw [hload]
    exact .file hread hshape hload hids hstorable hfaithful

/-- The first load of a well-shaped file leaves a file of which the next load gives the same
tables, without an identifier taken, a file written or anything logged. -/
theorem load_load {path text : Text} {seeded : Bool} {ids : IdSupply} {document : Json}
    (hread : Json.read (Text.unifyBreaks text) = .ok document)
    (hshape : document.IsArrayOf Json.IsTable) (hids : ids.IsUsable) :
    let store : Store := ⟨.file path seeded (.content text), ids⟩
    ∃ tables, store.load.answer = .ok tables ∧
      List.Forall₂ Table.ReadFrom document.items tables ∧
      store.load.store.load = ⟨.ok tables, store.load.store, []⟩ := by
  intro store
  obtain ⟨tables, hanswer, hfrom, hkeeps⟩ := load_keeps path seeded hread hshape hids
  exact ⟨tables, hanswer, hfrom, hkeeps.load_eq⟩

/-- The first load of a well-shaped file keeps each identifier that a row gives, as text. Every
later load gives the same tables, takes no identifier, and leaves the file as it is. -/
theorem assigns_ids_once {path text : Text} {seeded : Bool} {ids : IdSupply} {document : Json}
    (hread : Json.read (Text.unifyBreaks text) = .ok document)
    (hshape : document.IsArrayOf Json.IsTable) (hids : ids.IsUsable) :
    let store : Store := ⟨.file path seeded (.content text), ids⟩
    ∃ tables, store.load.answer = .ok tables ∧
      List.Forall₂ (fun json table => List.Forall₂ Row.KeepsId (rowItems json) table.rows)
        document.items tables ∧
      ∀ n, (store.afterLoads (n + 1)).load = ⟨.ok tables, store.load.store, []⟩ := by
  intro store
  obtain ⟨tables, hanswer, hfrom, hagain⟩ := load_load hread hshape hids
  refine ⟨tables, hanswer, hfrom.imp fun _ _ hread => hread.keepsIds, fun n => ?_⟩
  have hstays : store.load.store.load.store = store.load.store := by rw [hagain]
  rw [afterLoads, afterLoads_of_load_eq hstays]
  exact hagain

/-- A file with rows of which three give identifiers, as a text, a number and a truth value. -/
theorem assigns_ids_once_mixed :
    let row (id : Value) : Json := .object [("id", .scalar id), ("a", .scalar (.text "x"))]
    let document : Json := .array [.object [("id", .scalar (.int 1)), ("name", .scalar (.text "T")),
      ("columns", .array [.scalar (.text "a")]),
      ("data", .array [row (.text ""), row .null, row (.text "r"), row (.int 0), row (.bool false),
        row (.int 12), .object [("a", .scalar (.bool true))], row (.bool true)])]]
    let values : Record := .ofList [("a", .text "x")]
    let table : Table := ⟨"1", .scalar (.text "T"), ["a"],
      [⟨uuidText 1, values⟩, ⟨uuidText 2, values⟩, ⟨"r", values⟩, ⟨uuidText 3, values⟩,
        ⟨uuidText 4, values⟩, ⟨"12", values⟩, ⟨uuidText 5, .ofList [("a", .bool true)]⟩,
        ⟨"True", values⟩]⟩
    let store : Store := ⟨.file "data.json" false (.content document.write), .ofSequence uuidText⟩
    Json.read (unifyBreaks document.write) = .ok document ∧ document.IsArrayOf Json.IsTable ∧
      (IdSupply.ofSequence uuidText).IsUsable ∧ store.load.store.ids.used = 5 ∧
      ∀ n, (store.afterLoads (n + 1)).load = ⟨.ok [table], store.load.store, []⟩ := by
  intro row document values table store
  have hread : Json.read (unifyBreaks document.write) = .ok document := by decide +kernel
  have hshape : document.IsArrayOf Json.IsTable := by decide +kernel
  obtain ⟨tables, hload, -, hagain⟩ := assigns_ids_once hread hshape uuids_isUsable
  have hfirst : store.load.answer = .ok [table] := by decide +kernel
  obtain rfl := Except.ok.inj (hfirst.symm.trans hload)
  exact ⟨hread, hshape, uuids_isUsable, by decide +kernel, hagain⟩

end Store

end TableQuery
