/-!
# Ordered fields

Lists of named values in which writing a name that is there already keeps its place. Whatever
can be compared can be a name.

* `Fields.lookup`: the value under a name.
* `Fields.insert`: write a name.
* `Fields.insertAll`: write several names in turn.
* `Fields.mem_of_lookup`: what is under a name is one of the fields.
* `Fields.lookup_insert`: what is under each name after a writing.
* `Fields.names_insert`: the names after a writing, in order.
* `Fields.insert_of_not_mem`, `Fields.eq_or_mem_of_mem_insert`: the fields after a writing.
* `Fields.nodup_insert`: writing keeps the names distinct.
* `Fields.insertAll_eq_append`, `Fields.mem_insertAll`, `Fields.lookup_insertAll`: the fields after
  several writings.
* `Fields.insertAll_insertAll`: writing the same fields again changes nothing.
* `Fields.filter_insertAll`: writing leaves the fields under other names.
-/

namespace TableQuery.Fields

variable {κ α : Type}

/-- The names of fields, in order. -/
abbrev names (fields : List (κ × α)) : List κ :=
  fields.map Prod.fst

variable [DecidableEq κ]

/-- The value under a name, if the name is there. -/
def lookup (name : κ) : List (κ × α) → Option α
  | [] => none
  | (key, value) :: rest => if key = name then some value else lookup name rest

/-- Write a name: in place if it is there, at the end otherwise. -/
def insert (name : κ) (value : α) : List (κ × α) → List (κ × α)
  | [] => [(name, value)]
  | (key, old) :: rest =>
    if key = name then (key, value) :: rest else (key, old) :: insert name value rest

/-- Write several fields in turn. -/
def insertAll (before fields : List (κ × α)) : List (κ × α) :=
  fields.foldl (fun fields field => insert field.1 field.2 fields) before

@[simp] theorem lookup_nil (name : κ) : lookup name ([] : List (κ × α)) = none := rfl

theorem lookup_eq_none_iff {name : κ} {fields : List (κ × α)} :
    lookup name fields = none ↔ name ∉ names fields := by
  induction fields with
  | nil => simp
  | cons field rest ih =>
    obtain ⟨key, value⟩ := field
    by_cases h : key = name
    · simp [lookup, h]
    · simp [lookup, h, ih, Ne.symm h]

theorem mem_of_lookup {name : κ} {value : α} {fields : List (κ × α)}
    (h : lookup name fields = some value) : (name, value) ∈ fields := by
  induction fields with
  | nil => simp at h
  | cons field rest ih => grind [lookup]

theorem lookup_insert (name key : κ) (value : α) (fields : List (κ × α)) :
    lookup key (insert name value fields) =
      if key = name then some value else lookup key fields := by
  induction fields with
  | nil => simp [insert, lookup, eq_comm]
  | cons field rest ih => grind [lookup, insert]

theorem lookup_filter (keep : κ → Bool) (name : κ) (fields : List (κ × α)) :
    lookup name (fields.filter fun field => keep field.1) =
      if keep name then lookup name fields else none := by
  induction fields with
  | nil => simp
  | cons field rest ih => grind [lookup]

theorem names_insert (name : κ) (value : α) (fields : List (κ × α)) :
    names (insert name value fields) =
      if name ∈ names fields then names fields else names fields ++ [name] := by
  induction fields with
  | nil => simp [insert]
  | cons field rest ih => grind [insert]

/-- A name that is not there comes at the end. -/
theorem insert_of_not_mem {name : κ} {fields : List (κ × α)} (h : name ∉ names fields) (value : α) :
    insert name value fields = fields ++ [(name, value)] := by
  induction fields with
  | nil => rfl
  | cons field rest ih => grind [insert]

/-- Writing adds nothing but the field that is written. -/
theorem eq_or_mem_of_mem_insert {name : κ} {value : α} {field : κ × α} {fields : List (κ × α)}
    (h : field ∈ insert name value fields) : field = (name, value) ∨ field ∈ fields := by
  induction fields with
  | nil => exact Or.inl (List.mem_singleton.1 h)
  | cons first rest ih => grind [insert]

theorem nodup_insert {name : κ} {value : α} {fields : List (κ × α)}
    (h : (names fields).Nodup) : (names (insert name value fields)).Nodup := by
  rw [names_insert]
  split
  · exact h
  · rename_i hname
    refine List.nodup_append.2 ⟨h, by simp, fun key hkey other hother => ?_⟩
    rw [List.mem_singleton.1 hother]
    exact fun heq => hname (heq ▸ hkey)

/-- New names come after the others. -/
theorem insertAll_eq_append {before fields : List (κ × α)}
    (h : (names (before ++ fields)).Nodup) : insertAll before fields = before ++ fields := by
  induction fields generalizing before with
  | nil => simp [insertAll]
  | cons first rest ih =>
    have hnew : first.1 ∉ names before := by
      rw [names, List.map_append, List.map_cons] at h
      exact fun hmem => (List.nodup_append.1 h).2.2 _ hmem _ List.mem_cons_self rfl
    have hrest : insertAll (before ++ [first]) rest = before ++ [first] ++ rest :=
      ih (by simpa using h)
    show insertAll (insert first.1 first.2 before) rest = before ++ first :: rest
    rw [insert_of_not_mem hnew, hrest]
    simp

/-- Every field afterwards was there or is one of those written. -/
theorem mem_insertAll {field : κ × α} {before fields : List (κ × α)}
    (h : field ∈ insertAll before fields) : field ∈ before ∨ field ∈ fields := by
  induction fields generalizing before with
  | nil => exact Or.inl h
  | cons first rest ih =>
    rcases ih h with hset | hrest
    · rcases eq_or_mem_of_mem_insert hset with rfl | hold
      · exact Or.inr List.mem_cons_self
      · exact Or.inl hold
    · exact Or.inr (List.mem_cons_of_mem _ hrest)

theorem lookup_append (name : κ) (fields more : List (κ × α)) :
    lookup name (fields ++ more) = (lookup name fields).or (lookup name more) := by
  induction fields with
  | nil => rfl
  | cons field rest ih => grind [lookup]

/-- The last writing of a name counts. -/
theorem lookup_insertAll (name : κ) (before fields : List (κ × α)) :
    lookup name (insertAll before fields) =
      (lookup name fields.reverse).or (lookup name before) := by
  induction fields generalizing before with
  | nil => rfl
  | cons first rest ih =>
    show lookup name (insertAll (insert first.1 first.2 before) rest) = _
    rw [ih, List.reverse_cons, lookup_append, lookup_insert, Option.or_assoc]
    congr 1
    by_cases h : name = first.1 <;> simp [lookup, h, eq_comm]

theorem lookup_insertAll_of_not_mem {name : κ} {before fields : List (κ × α)}
    (h : name ∉ names fields) : lookup name (insertAll before fields) = lookup name before := by
  have hnone : lookup name fields.reverse = none := lookup_eq_none_iff.2 (by simpa using h)
  rw [lookup_insertAll, hnone, Option.none_or]

theorem lookup_insertAll_of_last {name : κ} {value : α} (before front : List (κ × α))
    {back : List (κ × α)} (h : name ∉ names back) :
    lookup name (insertAll before (front ++ (name, value) :: back)) = some value := by
  have hnone : lookup name back.reverse = none := lookup_eq_none_iff.2 (by simpa using h)
  simp [lookup_insertAll, lookup_append, hnone, lookup]

theorem nodup_insertAll {before : List (κ × α)} (h : (names before).Nodup)
    (fields : List (κ × α)) : (names (insertAll before fields)).Nodup := by
  induction fields generalizing before with
  | nil => exact h
  | cons first rest ih => exact ih (nodup_insert h)

/-- Names that are all there stay where they are. -/
theorem names_insertAll_of_subset {before fields : List (κ × α)}
    (h : names fields ⊆ names before) : names (insertAll before fields) = names before := by
  induction fields generalizing before with
  | nil => rfl
  | cons first rest ih =>
    obtain ⟨hfirst, hrest⟩ := List.cons_subset.1 h
    have hnames : names (insert first.1 first.2 before) = names before := by
      rw [names_insert, if_pos hfirst]
    exact (ih (hnames ▸ hrest)).trans hnames

theorem names_subset_insertAll (before fields : List (κ × α)) :
    names fields ⊆ names (insertAll before fields) := by
  intro name hname
  have hsome : lookup name fields.reverse ≠ none := fun hnone =>
    lookup_eq_none_iff.1 hnone (by simpa using hname)
  refine Decidable.byContradiction fun habsent => hsome ?_
  have hnone := lookup_eq_none_iff.2 habsent
  rw [lookup_insertAll] at hnone
  exact (Option.or_eq_none_iff.1 hnone).1

/-- Fields are known by their names, in order, and by what is under each of them. -/
theorem ext_lookup {fields more : List (κ × α)} (hnodup : (names fields).Nodup)
    (hnames : names fields = names more)
    (hlookup : ∀ name ∈ names fields, lookup name fields = lookup name more) : fields = more := by
  induction fields generalizing more with
  | nil => exact (List.map_eq_nil_iff.1 hnames.symm).symm
  | cons field rest ih =>
    obtain ⟨key, value⟩ := field
    obtain ⟨⟨other, value'⟩, rest', rfl, hother, hrest⟩ := List.map_eq_cons_iff.1 hnames.symm
    obtain rfl : other = key := hother
    obtain ⟨hkey, hnodup⟩ := List.nodup_cons.1 hnodup
    have hvalue : value = value' := by simpa [lookup] using hlookup other List.mem_cons_self
    have hmore : rest = rest' := ih hnodup hrest.symm fun name hname => by
      have hne : other ≠ name := fun heq => hkey (heq ▸ hname)
      simpa [lookup, hne] using hlookup name (List.mem_cons_of_mem _ hname)
    rw [hvalue, hmore]

/-- Writing the same fields again changes nothing. -/
theorem insertAll_insertAll {before : List (κ × α)} (h : (names before).Nodup)
    (fields : List (κ × α)) :
    insertAll (insertAll before fields) fields = insertAll before fields := by
  refine ext_lookup (nodup_insertAll (nodup_insertAll h fields) fields)
    (names_insertAll_of_subset (names_subset_insertAll before fields)) fun name _ => ?_
  rw [lookup_insertAll name (insertAll before fields), lookup_insertAll, ← Option.or_assoc,
    Option.or_self]

/-- Fields under other names stay as they are, in order. -/
theorem filter_insert (keep : κ → Bool) {name : κ} (h : keep name = false) (value : α)
    (fields : List (κ × α)) :
    ((insert name value fields).filter fun field => keep field.1) =
      fields.filter fun field => keep field.1 := by
  induction fields with
  | nil => simp [insert, h]
  | cons field rest ih => grind [insert]

theorem filter_insertAll (keep : κ → Bool) {fields : List (κ × α)}
    (h : ∀ name ∈ names fields, keep name = false) (before : List (κ × α)) :
    ((insertAll before fields).filter fun field => keep field.1) =
      before.filter fun field => keep field.1 := by
  induction fields generalizing before with
  | nil => rfl
  | cons first rest ih =>
    obtain ⟨hfirst, hrest⟩ := List.forall_mem_cons.1 h
    show ((insertAll (insert first.1 first.2 before) rest).filter _) = _
    rw [ih hrest, filter_insert keep hfirst]

end TableQuery.Fields
