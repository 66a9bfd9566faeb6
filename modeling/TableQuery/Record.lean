import TableQuery.Fields
import TableQuery.Value.Basic

/-!
# Records

A record holds at most one value per field name and remembers the order in which the fields
were first written.

* `Record.get?`: the value of a field.
* `Record.set`: write a field; a field that is already there keeps its place.
* `Record.erase`: drop a field.
* `Record.ofList`, `Record.merge`: write several fields in turn.
* `Record.project`: only the given fields.
* `Record.get?_set`, `Record.names_set`: what a record holds after a writing.
* `Record.get?_erase`, `Record.names_erase`: what is left after a field is dropped.
* `Record.fields_merge`, `Record.mem_ofList`, `Record.ofList_fields`: the fields after several
  writings.
-/

namespace TableQuery

/-- Fields with distinct names, in the order of their first writing. -/
structure Record where
  fields : List (Text × Value)
  nodup : (Fields.names fields).Nodup
  deriving DecidableEq

namespace Record

@[ext] theorem ext {r s : Record} (h : r.fields = s.fields) : r = s := by
  cases r
  cases s
  simp_all

/-- The record without fields. -/
def empty : Record :=
  ⟨[], List.nodup_nil⟩

/-- The field names in order. -/
def names (r : Record) : List Text :=
  Fields.names r.fields

/-- The value of a field, if the record has it. -/
def get? (r : Record) (name : Text) : Option Value :=
  Fields.lookup name r.fields

/-- Write a field. A field that the record has keeps its place. -/
def set (r : Record) (name : Text) (value : Value) : Record :=
  ⟨Fields.insert name value r.fields, Fields.nodup_insert r.nodup⟩

/-- Drop a field, if the record has it. -/
def erase (r : Record) (name : Text) : Record :=
  ⟨r.fields.filter fun field => field.1 != name,
    List.Nodup.sublist (List.Sublist.map _ List.filter_sublist) r.nodup⟩

/-- Write several fields in turn. -/
def merge (r : Record) (fields : List (Text × Value)) : Record :=
  fields.foldl (fun r field => r.set field.1 field.2) r

/-- The record of a list of fields; a name that comes again overwrites in place. -/
def ofList (fields : List (Text × Value)) : Record :=
  empty.merge fields

/-- The record of the given columns, leaving out those that this record does not have. -/
def project (r : Record) (columns : List Text) : Record :=
  ofList (columns.filterMap fun column => (r.get? column).map fun value => (column, value))

/-! ### What a record holds -/

@[simp] theorem get?_empty (name : Text) : empty.get? name = none := rfl

theorem get?_eq_none_iff {r : Record} {name : Text} : r.get? name = none ↔ name ∉ r.names :=
  Fields.lookup_eq_none_iff

theorem get?_set (r : Record) (name key : Text) (value : Value) :
    (r.set name value).get? key = if key = name then some value else r.get? key :=
  Fields.lookup_insert name key value r.fields

theorem names_set (r : Record) (name : Text) (value : Value) :
    (r.set name value).names = if name ∈ r.names then r.names else r.names ++ [name] := by
  have h := Fields.names_insert name value r.fields
  by_cases hname : name ∈ r.names <;> simp_all [names, set]

theorem get?_erase (r : Record) (name key : Text) :
    (r.erase name).get? key = if key = name then none else r.get? key := by
  have h := Fields.lookup_filter (fun key => key != name) key r.fields
  by_cases hkey : key = name <;> simpa [hkey, get?, erase] using h

theorem names_erase (r : Record) (name : Text) :
    (r.erase name).names = r.names.filter (· != name) := by
  simp [names, erase, Fields.names, List.filter_map, Function.comp_def]

theorem fields_merge (r : Record) (fields : List (Text × Value)) :
    (r.merge fields).fields = Fields.insertAll r.fields fields := by
  induction fields generalizing r with
  | nil => rfl
  | cons first rest ih => exact ih (r.set first.1 first.2)

theorem mem_ofList {field : Text × Value} {fields : List (Text × Value)}
    (h : field ∈ (ofList fields).fields) : field ∈ fields := by
  rw [ofList, fields_merge] at h
  rcases Fields.mem_insertAll h with hnone | hmem
  · simp [empty] at hnone
  · exact hmem

theorem ofList_fields (r : Record) : ofList r.fields = r :=
  ext ((fields_merge _ _).trans (Fields.insertAll_eq_append r.nodup))

end Record

end TableQuery
